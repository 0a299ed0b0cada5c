import Discourse.Proofs.Command.Effect
import Discourse.Proofs.Command.Failure
import Discourse.Proofs.Command.Reading

/-!
# The transcript

Every line is answered and recorded with its answer, but for two kinds: one that sets a depth to a
number too long to be read, and one that begins a game with agents of which two share a name. A new
game begins a new transcript, and the line that asks for it comes first in it.

* `Interpreter.Unanswered`: the two kinds.
* `Interpreter.transcript_execute`: the transcript after a line.
* `sinceNewGame`, `Interpreter.transcript_executeAll`: the transcript after many.
* `Interpreter.every_line_is_answered`: all of it.
-/

namespace Discourse

/-- Whether the line asks for a new game. -/
def beginsGame (line : String) : Bool := decide (Command.parse? line = some .newGame)

/-- What was said from the last line on that asks for a new game, or from the first if none does. -/
def sinceNewGame : List (String × Text) → List (String × Text)
  | [] => []
  | said :: rest => if rest.any (beginsGame ·.1) then sinceNewGame rest else said :: rest

theorem sinceNewGame_eq_self {said : List (String × Text)} (h : said.any (beginsGame ·.1) = false) :
    sinceNewGame said = said := by
  cases said with
  | nil => rfl
  | cons first rest =>
    rw [List.any_cons, Bool.or_eq_false_iff] at h
    rw [sinceNewGame, h.2]
    rfl

/-- What was said, as the transcript has it. -/
def exchanges (said : List (String × Text)) : List Exchange := said.map fun s => ⟨s.1, s.2⟩

/-! ## Commands -/

namespace Command

variable {settings : Settings} {p : Play}

theorem transcript_runAddAgent (settings : Settings) (p : Play) (name : String) :
    (runAddAgent settings p name).2.game.transcript = p.game.transcript := by
  rw [runAddAgent_play, Game.addAgent_newcomer]
  cases (p.game.agentNamed? name).isSome <;> rfl

theorem transcript_runRemoveAgent (p : Play) (name : String) :
    (runRemoveAgent p name).2.game.transcript = p.game.transcript := by
  unfold runRemoveAgent Game.removeAgent
  cases p.game.agentNamed? name <;> rfl

theorem transcript_of_owner? {c : Command} {name : String} (h : c.owner? = some name) :
    (c.run settings p).2.game.transcript = p.game.transcript := by
  obtain ⟨f, -, hq⟩ := leads_run settings p h
  rw [hq]
  rfl

/-- A new game begins a new transcript, and no other command touches it. -/
theorem transcript_run (settings : Settings) (p : Play) (c : Command) :
    (c.run settings p).2.game.transcript = if c = newGame then [] else p.game.transcript := by
  cases c with
  | newGame =>
    rw [run, runNewGame_play]
    exact Game.transcript_newGame settings p.ids
  | addAgent name => exact transcript_runAddAgent settings p name
  | removeAgent name => exact transcript_runRemoveAgent p name
  | setIntelligence | assert | disavow | challenge | withdraw | editInference
  | editIncompatibility => exact transcript_of_owner? rfl
  | _ => rfl

end Command

namespace Interpreter

variable {it : Interpreter} {p : Play} {line : String} {e : CommandFailure} {answer : Text}

/-! ## One line -/

/-- Why a line has no answer: it sets the depth of somebody who is present to a number of more than
4300 digits, or it begins a game when a configured agent has the name of one before it. -/
def Unanswered (it : Interpreter) (p : Play) (line : String) (e : CommandFailure) : Prop :=
  (∃ name digits, Command.parse? line = some (.setIntelligence name digits) ∧
    (p.game.agentNamed? name).isSome = true ∧ 4300 < digits.length ∧
      e = .numeral ⟨digits.length⟩) ∨
  (Command.parse? line = some .newGame ∧
    ∃ name, IsFirstTaken [] it.settings.seedAgents name ∧ e = .refused (.duplicateName name))

theorem execute_fst_eq_error_iff_unanswered :
    (it.execute p line).1 = .error e ↔ it.Unanswered p line e := by
  rw [execute_fst_eq_error_iff]
  constructor
  · rintro ⟨c, hc, hfails⟩
    cases c with
    | setIntelligence name digits =>
      obtain ⟨hpresent, n, hread, rfl⟩ := hfails
      obtain ⟨hlong, rfl⟩ := (Command.readDigits_of_parse? hc).mp hread
      exact Or.inl ⟨name, digits, hc, hpresent, hlong, rfl⟩
    | newGame => exact Or.inr ⟨hc, hfails⟩
    | _ => exact hfails.elim
  · rintro (⟨name, digits, hc, hpresent, hlong, rfl⟩ | ⟨hc, hfails⟩)
    · exact ⟨_, hc, hpresent, _, (Command.readDigits_of_parse? hc).mpr ⟨hlong, rfl⟩, rfl⟩
    · exact ⟨_, hc, hfails⟩

theorem exists_unanswered_iff :
    (∃ e, it.Unanswered p line e) ↔
      (∃ name digits, Command.parse? line = some (.setIntelligence name digits) ∧
        (p.game.agentNamed? name).isSome = true ∧ 4300 < digits.length) ∨
      (Command.parse? line = some .newGame ∧ ¬ (it.settings.seedAgents.map Text.lower).Nodup) := by
  rw [← exists_isFirstTaken_iff]
  constructor
  · rintro ⟨e, ⟨name, digits, hc, hpresent, hlong, -⟩ | ⟨hc, name, hname, -⟩⟩
    · exact Or.inl ⟨name, digits, hc, hpresent, hlong⟩
    · exact Or.inr ⟨hc, name, hname⟩
  · rintro (⟨name, digits, hc, hpresent, hlong⟩ | ⟨hc, name, hname⟩)
    · exact ⟨_, Or.inl ⟨name, digits, hc, hpresent, hlong, rfl⟩⟩
    · exact ⟨_, Or.inr ⟨hc, name, hname, rfl⟩⟩

theorem transcript_reply (it : Interpreter) (p : Play) (line : String) :
    (it.reply p line).2.game.transcript = if beginsGame line then [] else p.game.transcript := by
  unfold reply beginsGame
  cases Command.parse? line with
  | none => rfl
  | some c =>
    simp only [Command.transcript_run, Option.some.injEq, decide_eq_true_eq]

/-- An answered line comes last in the transcript, after whatever stands there of this game. -/
theorem transcript_execute (h : (it.execute p line).1 = .ok answer) :
    (it.execute p line).2.game.transcript =
      (if beginsGame line then [] else p.game.transcript) ++ [⟨line, answer⟩] := by
  rw [execute_fst] at h
  rw [execute_snd, h]
  exact congrArg (· ++ [(⟨line, answer⟩ : Exchange)]) (transcript_reply it p line)

/-! ## Many lines -/

/-- When every line was answered, the transcript has what was said since the game began. -/
theorem transcript_executeAll {lines : List String} {answers : List Text}
    (h : (it.executeAll p lines).1 = answers.map .ok) :
    (it.executeAll p lines).2.game.transcript =
      if (lines.zip answers).any (beginsGame ·.1) then
        exchanges (sinceNewGame (lines.zip answers))
      else p.game.transcript ++ exchanges (lines.zip answers) := by
  induction lines generalizing p answers with
  | nil => simp [executeAll, exchanges]
  | cons line lines ih =>
    cases answers with
    | nil => cases h
    | cons answer answers =>
      obtain ⟨hfirst, hrest⟩ : (it.execute p line).1 = .ok answer ∧
          (it.executeAll (it.execute p line).2 lines).1 = answers.map .ok := List.cons.inj h
      have hlater := ih hrest
      have hnow := transcript_execute hfirst
      rw [hnow] at hlater
      rw [List.zip_cons_cons, List.any_cons, sinceNewGame]
      -- What comes later counts alone if a game begins there.
      cases hany : (lines.zip answers).any (beginsGame ·.1) with
      | true =>
        rw [hany] at hlater
        simpa [executeAll] using hlater
      | false =>
        rw [hany] at hlater
        cases hbegins : beginsGame line <;>
          simpa [executeAll, exchanges, hbegins, hany] using hlater

/-- Every line is answered and recorded, but for the two kinds. In a run without these the
transcript is what was said since the last new game. -/
theorem every_line_is_answered (it : Interpreter) :
    (∀ p line e, (it.execute p line).1 = .error e ↔ it.Unanswered p line e) ∧
    (∀ p line, (∃ e, (it.execute p line).1 = .error e) ↔
      (∃ name digits, Command.parse? line = some (.setIntelligence name digits) ∧
        (p.game.agentNamed? name).isSome = true ∧ 4300 < digits.length) ∨
      (Command.parse? line = some .newGame ∧ ¬ (it.settings.seedAgents.map Text.lower).Nodup)) ∧
    (∀ p line answer, (it.execute p line).1 = .ok answer →
      (it.execute p line).2.game.transcript =
        (if beginsGame line then [] else p.game.transcript) ++ [⟨line, answer⟩]) ∧
    ∀ ids lines answers, (it.executeAll ⟨{}, ids⟩ lines).1 = answers.map .ok →
      (it.executeAll ⟨{}, ids⟩ lines).2.game.transcript =
        exchanges (sinceNewGame (lines.zip answers)) := by
  refine ⟨fun p line e => execute_fst_eq_error_iff_unanswered, fun p line => ?_,
    fun p line answer => transcript_execute, ?_⟩
  · rw [← exists_unanswered_iff]
    exact exists_congr fun e => execute_fst_eq_error_iff_unanswered
  · intro ids lines answers h
    rw [transcript_executeAll h]
    split
    · rfl
    next hnone =>
      rw [sinceNewGame_eq_self (Bool.eq_false_iff.mpr hnone)]
      rfl

/-- The line that begins a game comes first in the transcript; where the configured agents share a
name there is no game to begin. -/
theorem every_line_is_answered_newGame :
    let lines := ["add agent Zed", "new game", "Ann asserts A is red"]
    let twins : Interpreter := { settings := { seedAgents := ["Ann", "ann"] } }
    (executeAll {} ⟨{}, {}⟩ lines).2.game.transcript.map Exchange.input =
        ["new game", "Ann asserts A is red"] ∧
      (twins.execute {} "new game").1 = .error (.refused (.duplicateName "ann")) := by
  intro lines twins
  obtain ⟨-, -, -, hrun⟩ := every_line_is_answered {}
  obtain ⟨hfails, -⟩ := every_line_is_answered twins
  let outputs := (executeAll {} ⟨{}, {}⟩ lines).1
  let answers := outputs.filterMap Except.toOption
  have hall : ∀ o ∈ outputs, o.toOption.isSome = true := by decide +kernel
  have hanswers : answers.map .ok = outputs := by
    rw [List.map_filterMap]
    refine (List.filterMap_congr fun o ho => ?_).trans List.filterMap_some
    cases o with
    | ok answer => rfl
    | error e => cases hall _ ho
  constructor
  · rw [hrun {} lines answers hanswers.symm]
    decide +kernel
  · refine (hfails {} "new game" _).mpr (Or.inr ⟨by decide +kernel, "ann", ?_, rfl⟩)
    exact ⟨["Ann"], [], rfl, by decide +kernel, by decide +kernel⟩

end Interpreter

end Discourse
