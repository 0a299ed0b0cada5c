import Discourse.Proofs.Command.Margins
import Discourse.Proofs.Interpreter.Line

/-!
# Executing a line with blanks around it

What a line does depends on what it asks for, and otherwise it is only recorded. So with blanks
around it a line is answered as without them and leaves the same agents, unless because of the
blanks at its end it asks for something about the empty sentence.

* `Interpreter.noted`: the record of a line that is answered in words.
* `Interpreter.execute_margins`: a line with any blanks around it.
* `Interpreter.not_every_margin_is_free`: a line to which a blank matters.
-/

namespace Discourse.Interpreter

open Command (IsVoid)
open Text (AllBlank)

/-- Adds a line and its answer to the transcript, if it is answered in words. -/
def noted (line : String) (answer : Except CommandFailure Text) (p : Play) : Play :=
  match answer with
  | .ok t => recorded line t p
  | .error _ => p

theorem execute_eq_noted (it : Interpreter) (p : Play) (line : String) :
    it.execute p line = (answerOf it.width (it.reply p line).1,
      noted line (answerOf it.width (it.reply p line).1) (it.reply p line).2) :=
  Prod.ext (execute_fst it p line) (execute_snd it p line)

@[simp] theorem agents_noted (line : String) (answer : Except CommandFailure Text) (p : Play) :
    (noted line answer p).game.agents = p.game.agents := by
  cases answer <;> rfl

/-- Lines that ask for the same are answered alike and leave the same agents, and the plays after
them differ only in the line that is recorded. -/
theorem execute_congr (it : Interpreter) (p : Play) {line line' : String}
    (h : Command.parse? line' = Command.parse? line) :
    (it.execute p line').1 = (it.execute p line).1 ∧
      (it.execute p line').2.game.agents = (it.execute p line).2.game.agents ∧
      ∃ q, (it.execute p line).2 = noted line (it.execute p line).1 q ∧
        (it.execute p line').2 = noted line' (it.execute p line).1 q := by
  have hreply : it.reply p line' = it.reply p line := by rw [reply, reply, h]
  rw [execute_eq_noted it p line, execute_eq_noted it p line', hreply]
  exact ⟨rfl, by rw [agents_noted, agents_noted], _, rfl, rfl⟩

/-- A line asks for the same with blanks around it just when it does not ask for a void command
because of those at its end; and then the blanks make no difference but that they are recorded. -/
theorem execute_margins (it : Interpreter) (p : Play) (line lead trail : String)
    (hlead : AllBlank lead.toList) (htrail : AllBlank trail.toList) :
    (Command.parse? (lead ++ line ++ trail) = Command.parse? line ↔
        (IsVoid (line ++ trail) → IsVoid line)) ∧
      ((IsVoid (line ++ trail) → IsVoid line) →
        (it.execute p (lead ++ line ++ trail)).1 = (it.execute p line).1 ∧
        (it.execute p (lead ++ line ++ trail)).2.game.agents =
          (it.execute p line).2.game.agents ∧
        ∃ q, (it.execute p line).2 = noted line (it.execute p line).1 q ∧
          (it.execute p (lead ++ line ++ trail)).2 =
            noted (lead ++ line ++ trail) (it.execute p line).1 q) := by
  have hparse := Command.parse?_margins_iff line hlead htrail
  exact ⟨hparse, fun h => execute_congr it p (hparse.mpr h)⟩

/-- The game in which nobody has spoken yet. -/
def silent : Play := playAfter {} {} ["new game"]

/-- Blanks around an assertion make no difference. -/
theorem execute_margins_asserts :
    let line := "Bob asserts A is red"
    AllBlank " \t".toList ∧ AllBlank " \n".toList ∧ ¬ IsVoid (line ++ " \n") ∧
      (execute {} silent (" \t" ++ line ++ " \n")).1 = (execute {} silent line).1 ∧
      (execute {} silent (" \t" ++ line ++ " \n")).2.game.agents =
        (execute {} silent line).2.game.agents := by
  have hparse : Command.parse? ("Bob asserts A is red" ++ " \n") =
      some (.assert "Bob" "A is red") := by decide +kernel
  have hvoid : ¬ IsVoid ("Bob asserts A is red" ++ " \n") := by
    rintro ⟨c, hc, hvoid⟩
    rw [hparse] at hc
    cases hc
    revert hvoid
    decide
  have hmargins :=
    execute_margins {} silent "Bob asserts A is red" " \t" " \n" (by decide) (by decide)
  obtain ⟨hanswer, hagents, -⟩ := hmargins.2 fun h => absurd h hvoid
  exact ⟨by decide, by decide, hvoid, hanswer, hagents⟩

/-- With a blank at its end, a line that is no command asserts the empty sentence. -/
theorem not_every_margin_is_free :
    ¬ ∀ (it : Interpreter) (p : Play) (line lead trail : String), AllBlank lead.toList →
      AllBlank trail.toList →
        (it.execute p (lead ++ line ++ trail)).1 = (it.execute p line).1 ∧
        (it.execute p (lead ++ line ++ trail)).2.game.agents =
          (it.execute p line).2.game.agents := by
  intro h
  have hagents := (h {} silent "Bob asserts" "" " " (by decide) (by decide)).2
  have hblank : ((execute {} silent ("" ++ "Bob asserts" ++ " ")).2.game.agents.map
      (·.avowed.contains (Text.ofString ""))) = [false, true] := by decide +kernel
  have hbare : ((execute {} silent "Bob asserts").2.game.agents.map
      (·.avowed.contains (Text.ofString ""))) = [false, false] := by decide +kernel
  rw [hagents, hbare] at hblank
  cases hblank

end Discourse.Interpreter
