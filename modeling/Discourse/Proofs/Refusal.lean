import Discourse.Proofs.Command.Failure
import Discourse.Proofs.Hall.Material
import Discourse.Proofs.Hall.Seats

/-!
# Refusals

Whatever is refused is refused before anything is done: a name that is taken or that nobody has, a
negative depth, a number that cannot be read. Everybody is as before, and so are the seats and the
transcript; only identifiers may have been drawn. A new game is the one exception. It clears the
table first, and when one of the configured agents is refused the table stays as it is by then.

* `Hall.perform_of_error`: a refused operation.
* `Interpreter.execute_of_error`: a line without an answer.
* `refusals_leave_everything`: both of them.
* `not_every_refusal_leaves_the_game`: a new game can be refused when the old one is gone.
-/

namespace Discourse

/-! ## Operations -/

namespace Hall

variable {defaults : Settings} {h : Hall} {e : GameError}

theorem join_of_error {name : Text} {seed : Seed}
    (he : (h.join defaults name seed).1 = .error e) :
    ∃ ids, (h.join defaults name seed).2 = { h with ids } := by
  rcases join_cases h defaults name seed with
    ⟨-, hjoin⟩ | ⟨-, e', ids, -, hjoin⟩ | ⟨-, a, ids, -, hjoin⟩
  · rw [hjoin]
    exact ⟨h.ids, rfl⟩
  · rw [hjoin]
    exact ⟨ids, rfl⟩
  · rw [hjoin] at he
    cases he

theorem enter_of_error {name : Text} {seed : Seed}
    (he : (h.enter defaults name seed).1 = .error e) :
    ∃ ids, (h.enter defaults name seed).2 = { h with ids } := by
  rcases enter_cases h defaults name seed with ⟨e', ids, -, henter⟩ | ⟨a, ids, -, henter⟩
  · rw [henter]
    exact ⟨ids, rfl⟩
  · rw [henter] at he
    cases he

theorem setIntelligence_of_error {n : Nat} {value : Int}
    (he : (h.setIntelligence n value).1 = .error e) : (h.setIntelligence n value).2 = h := by
  unfold setIntelligence at he ⊢
  split
  · rfl
  next a ha =>
    rw [ha] at he
    dsimp only at he
    split at he
    · cases he
    · rfl

theorem fst_unnumbered {r : Except GameError Nat × Hall} (he : (unnumbered r).1 = .error e) :
    r.1 = .error e := by
  obtain ⟨result, h⟩ := r
  cases result with
  | ok n => cases he
  | error e' => exact congrArg Except.error (Except.error.inj he)

/-- A refused operation leaves everybody, the seats and the transcript, unless it is a new game. -/
theorem perform_of_error {o : Operation} (he : (h.perform defaults o).1 = .error e) :
    (∃ ids, (h.perform defaults o).2 = { h with ids }) ∨
      (o = .newGame ∧ (h.perform defaults o).2.game.BrokenOff defaults e ∧
        h.people <+: (h.perform defaults o).2.people) := by
  cases o with
  | join name seed => exact Or.inl (join_of_error (fst_unnumbered he))
  | enter name seed => exact Or.inl (enter_of_error (fst_unnumbered he))
  | leave name =>
    left
    simp only [perform] at he ⊢
    split at he
    · cases he
    · exact ⟨h.ids, rfl⟩
  | newGame =>
    right
    refine ⟨rfl, ?_, List.prefix_append h.people _⟩
    have hnew : (Game.newGame defaults h.ids).1 = .error e := he
    have hgame : (h.perform defaults .newGame).2.game = (Game.newGame defaults h.ids).2.1 :=
      game_seat h _ _
    rw [hgame]
    exact Game.newGame_brokenOff hnew
  | setIntelligence n value => exact Or.inl ⟨h.ids, setIntelligence_of_error he⟩
  | _ => cases he

end Hall

/-! ## Lines -/

namespace Interpreter

variable {it : Interpreter} {p : Play} {line : String} {e : CommandFailure}

/-- A line without an answer leaves the play, unless it asks for a new game. -/
theorem execute_of_error (he : (it.execute p line).1 = .error e) :
    (it.execute p line).2 = p ∨
      (Command.parse? line = some .newGame ∧
        ∃ refusal, e = .refused refusal ∧
          (it.execute p line).2.game.BrokenOff it.settings refusal) := by
  rcases execute_snd_of_error he with hnew | hsame
  · right
    obtain ⟨c, hc, hfails⟩ := execute_fst_eq_error_iff.mp he
    cases hc.symm.trans hnew
    obtain ⟨name, hname, rfl⟩ := hfails
    have hrefused : (Game.newGame it.settings p.ids).1 = .error (.duplicateName name) :=
      (Game.newGame_eq_error_iff p.ids).mpr ⟨name, hname, rfl⟩
    refine ⟨hnew, _, rfl, ?_⟩
    rw [execute_snd_of_parse? he hnew, Command.run, Command.runNewGame_play]
    exact Game.newGame_brokenOff hrefused
  · exact Or.inl hsame

end Interpreter

/-- A refused operation, or a line without an answer, leaves everybody, the seats and the transcript
as they were, unless it is a new game whose configured agents share a name. -/
theorem refusals_leave_everything (it : Interpreter) :
    (∀ {h : Hall} {o : Hall.Operation} {e : GameError},
      (h.perform it.settings o).1 = .error e →
        (∃ ids, (h.perform it.settings o).2 = { h with ids }) ∨
        (o = .newGame ∧ (h.perform it.settings o).2.game.BrokenOff it.settings e ∧
          h.people <+: (h.perform it.settings o).2.people)) ∧
    ∀ {p : Play} {line : String} {e : CommandFailure},
      (it.execute p line).1 = .error e →
        (it.execute p line).2 = p ∨
        (Command.parse? line = some .newGame ∧
          ∃ refusal, e = .refused refusal ∧
            (it.execute p line).2.game.BrokenOff it.settings refusal) :=
  ⟨Hall.perform_of_error, Interpreter.execute_of_error⟩

/-- Settings in which two of the configured agents share a name. -/
def twins : Settings := { seedAgents := ["Ann", "ann"] }

/-- Zed alone at the table. -/
def zedAlone : Hall := Hall.after twins {} [.join "Zed" {}]

/-- When somebody is to leave whom nobody knows, nothing happens. When a new game is asked for, what
was said is gone. -/
theorem refusals_leave_everything_zedAlone :
    (zedAlone.perform twins (.leave "Ann")).2.seated = zedAlone.seated ∧
      (Interpreter.execute { settings := twins } ⟨zedAlone.game, {}⟩
        "new game").2.game.transcript = [] := by
  obtain ⟨hoperation, hline⟩ := refusals_leave_everything { settings := twins }
  constructor
  · have hleave : (zedAlone.perform twins (.leave "Ann")).1 = .error (.agentNotFound "Ann") := by
      decide +kernel
    rcases hoperation hleave with ⟨ids, hsame⟩ | ⟨hnew, -⟩
    · rw [hsame]
    · cases hnew
  · have hnew : (Interpreter.execute { settings := twins } ⟨zedAlone.game, {}⟩ "new game").1 =
        .error (.refused (.duplicateName "ann")) := by
      decide +kernel
    rcases hline hnew with hsame | ⟨-, refusal, -, before, name, after, -, -, -, -, hnothing⟩
    · rw [hsame]
      rfl
    · exact hnothing

/-- A new game can be refused when the old one is gone. -/
theorem not_every_refusal_leaves_the_game :
    ¬ ∀ (defaults : Settings) (h : Hall) (o : Hall.Operation) (e : GameError),
      (h.perform defaults o).1 = .error e → (h.perform defaults o).2.game = h.game := by
  intro hall
  have hsame := hall twins zedAlone .newGame (.duplicateName "ann") (by decide +kernel)
  have hnames := congrArg (fun g => g.agents.map Agent.name) hsame
  have hdiffer : (zedAlone.perform twins .newGame).2.game.agents.map Agent.name ≠
      zedAlone.game.agents.map Agent.name := by decide +kernel
  exact hdiffer hnames

end Discourse
