import Discourse.Proofs.Web.Service

/-!
# Lines while others play

A game that begins anew and goes on line by line, while other games draw identifiers from the same
supply.

* `Play.Follows`: what lines lead to from a new game.
* `Play.Follows.mirrors`: it is what they lead to alone, up to identifiers.
-/

namespace Discourse

/-- The play to which the lines lead from a new game, each of them answered. In between, others may
have drawn identifiers. -/
inductive Play.Follows (settings : Settings) : List String → Play → Prop
  | begin {ids ids' : IdSupply} {game : Game} :
      Game.newGame settings ids = (.ok (), game, ids') → Follows settings [] ⟨game, ids'⟩
  | later {lines : List String} {p : Play} {ids : IdSupply} :
      Follows settings lines p → p.ids.drawn ≤ ids.drawn → Follows settings lines ⟨p.game, ids⟩
  | line {lines : List String} {p q : Play} {line : String} {answer : Text} :
      Follows settings lines p →
      ({ settings } : Interpreter).execute p line = (.ok answer, q) →
      Follows settings (lines ++ [line]) q

/-- The lines lead to what they lead to alone, up to identifiers. -/
theorem Play.Follows.mirrors {settings : Settings} {lines : List String} {p : Play}
    (hs : settings.IsWhole) (h : p.Follows settings lines) :
    (({ settings } : Interpreter).playAfter (Web.opening settings) lines).Mirrors p := by
  let it : Interpreter := { settings }
  induction h with
  | @begin ids ids' game hnew =>
    have hopening := Web.opening_mirrors hs ids
    rwa [hnew] at hopening
  | later _ hdrawn ih => exact ih.later hdrawn
  | @line lines p q line answer _ hrun ih =>
    have hnext : (it.execute (it.playAfter (Web.opening settings) lines) line).2.Mirrors
        (it.execute p line).2 := (Interpreter.execute_mirrors ih hs line).2
    rw [hrun] at hnext
    rwa [Interpreter.playAfter, List.foldl_append]

end Discourse
