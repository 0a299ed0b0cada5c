import Discourse.Proofs.Game.Beginning
import Discourse.Proofs.Interpreter.Line

/-!
# Commands without an answer

Two commands can have no answer: one that sets a depth to a number with too many digits, and one
that begins a game when two of the configured agents share a name. After the first of them the play
is as it was before.

* `Command.Fails`: when a command has no answer.
* `Command.run_fst_eq_error_iff`, `Command.run_snd_of_error`: a command.
* `Interpreter.execute_fst_eq_error_iff`, `Interpreter.execute_eq_error`: a line.
-/

namespace Discourse

variable {settings : Settings} {p p' : Play} {e : CommandFailure}

namespace Command

/-- Why a command has no answer. -/
def Fails (settings : Settings) (p : Play) (e : CommandFailure) : Command → Prop
  | setIntelligence name digits =>
    (p.game.agentNamed? name).isSome = true ∧
      ∃ n, Text.readDigits digits.toList = .error n ∧ e = .numeral n
  | newGame =>
    ∃ name, IsFirstTaken [] settings.seedAgents name ∧ e = .refused (.duplicateName name)
  | _ => False

theorem change_ne_error (name : String) (f : Agent → Agent) :
    (p.change name f).1 ≠ .error e := by
  unfold Play.change
  split <;> rintro ⟨⟩

theorem runAddAgent_ne_error (name : String) : (runAddAgent settings p name).1 ≠ .error e := by
  unfold runAddAgent
  rw [Game.addAgent_newcomer]
  cases (p.game.agentNamed? name).isSome <;> rintro ⟨⟩

theorem runRemoveAgent_ne_error (name : String) : (runRemoveAgent p name).1 ≠ .error e := by
  unfold runRemoveAgent
  split <;> rintro ⟨⟩

theorem runDisavow_ne_error (speaker : String) (s : Sentence) :
    (runDisavow p speaker s).1 ≠ .error e := by
  unfold runDisavow
  split
  · rintro ⟨⟩
  · split
    · exact change_ne_error _ _
    · rintro ⟨⟩

theorem runChallenge_ne_error (speaker target : String) (s : Sentence) :
    (runChallenge p speaker target s).1 ≠ .error e := by
  unfold runChallenge
  split
  · rintro ⟨⟩
  · split
    · rintro ⟨⟩
    · split
      · rintro ⟨⟩
      · exact change_ne_error _ _

theorem runWithdraw_ne_error (speaker target : String) (s : Sentence) :
    (runWithdraw p speaker target s).1 ≠ .error e := by
  unfold runWithdraw
  split
  · rintro ⟨⟩
  · split
    · exact change_ne_error _ _
    · split
      · rintro ⟨⟩
      · exact change_ne_error _ _

theorem runNewGame_fst_eq_error_iff :
    (runNewGame settings p).1 = .error e ↔ newGame.Fails settings p e := by
  have hnew : ∀ {e}, (Game.newGame settings p.ids).1 = .error e ↔ _ :=
    Game.newGame_eq_error_iff p.ids
  unfold runNewGame
  split
  next h =>
    rw [h] at hnew
    constructor
    · rintro ⟨⟩
    · rintro ⟨name, hname, -⟩
      cases hnew.mpr ⟨name, hname, rfl⟩
  next h =>
    rw [h] at hnew
    obtain ⟨first, hfirst, rfl⟩ := hnew.mp rfl
    constructor
    · rintro ⟨⟩
      exact ⟨first, hfirst, rfl⟩
    · rintro ⟨name, hname, rfl⟩
      have hsame := hnew.mpr ⟨name, hname, rfl⟩
      rw [Except.error.inj hsame]

theorem runSetIntelligence_fst_eq_error_iff {name digits : String} :
    (runSetIntelligence p name digits).1 = .error e ↔
      (setIntelligence name digits).Fails settings p e := by
  simp only [runSetIntelligence, Fails]
  cases p.game.agentNamed? name with
  | none => simp
  | some a =>
    cases Text.readDigits digits.toList with
    | error n => simp [eq_comm]
    | ok n => simpa using change_ne_error name fun a => { a with intelligence := n }

/-- When a command has no answer. -/
theorem run_fst_eq_error_iff {c : Command} :
    (c.run settings p).1 = .error e ↔ c.Fails settings p e := by
  cases c with
  | addAgent name => exact iff_of_false (runAddAgent_ne_error name) id
  | removeAgent name => exact iff_of_false (runRemoveAgent_ne_error name) id
  | newGame => exact runNewGame_fst_eq_error_iff
  | setIntelligence name digits => exact runSetIntelligence_fst_eq_error_iff
  | assert speaker s => exact iff_of_false (change_ne_error _ _) id
  | disavow speaker s => exact iff_of_false (runDisavow_ne_error speaker s) id
  | challenge speaker target s => exact iff_of_false (runChallenge_ne_error speaker target s) id
  | withdraw speaker target s => exact iff_of_false (runWithdraw_ne_error speaker target s) id
  | editInference => exact iff_of_false (change_ne_error _ _) id
  | editIncompatibility => exact iff_of_false (change_ne_error _ _) id
  | _ => exact iff_of_false (by rintro ⟨⟩) id

/-- Where there is no answer nothing happens, unless a new game was asked for. -/
theorem run_snd_of_error {c : Command} (h : (c.run settings p).1 = .error e) :
    c = newGame ∨ (c.run settings p).2 = p := by
  have hfails := run_fst_eq_error_iff.mp h
  cases c with
  | newGame => exact Or.inl rfl
  | setIntelligence name digits =>
    obtain ⟨-, n, hread, -⟩ := hfails
    right
    simp only [run, runSetIntelligence, hread]
    split <;> rfl
  | _ => exact hfails.elim

end Command

namespace Interpreter

variable {it : Interpreter} {line : String}

theorem execute_fst_eq_error_iff :
    (it.execute p line).1 = .error e ↔
      ∃ c, Command.parse? line = some c ∧ c.Fails it.settings p e := by
  have hanswer : (it.execute p line).1 = .error e ↔ (it.reply p line).1 = .error e := by
    rw [execute_fst]
    cases (it.reply p line).1 <;> simp [answerOf, Except.map]
  rw [hanswer, reply]
  cases Command.parse? line with
  | none => simp
  | some c => simpa using Command.run_fst_eq_error_iff

/-- A line without an answer is not recorded. -/
theorem execute_snd_of_parse? {c : Command} (h : (it.execute p line).1 = .error e)
    (hc : Command.parse? line = some c) : (it.execute p line).2 = (c.run it.settings p).2 := by
  have hreply : it.reply p line = c.run it.settings p := by rw [reply, hc]
  have hanswer : answerOf it.width (it.reply p line).1 = .error e := execute_fst it p line ▸ h
  rw [execute_snd, hanswer, hreply]

/-- A line without an answer leaves the play as it was, unless it asks for a new game. -/
theorem execute_snd_of_error (h : (it.execute p line).1 = .error e) :
    Command.parse? line = some .newGame ∨ (it.execute p line).2 = p := by
  obtain ⟨c, hc, hfails⟩ := execute_fst_eq_error_iff.mp h
  rw [execute_snd_of_parse? h hc, hc]
  rcases Command.run_snd_of_error (Command.run_fst_eq_error_iff.mpr hfails) with rfl | hsame
  · exact Or.inl rfl
  · exact Or.inr hsame

/-- When no two of the configured agents share a name, every line without an answer leaves the play
as it was. -/
theorem execute_eq_error (hnames : (it.settings.seedAgents.map Text.lower).Nodup)
    (h : it.execute p line = (.error e, p')) : p' = p := by
  have herror : (it.execute p line).1 = .error e := by rw [h]
  obtain ⟨c, hc, hfails⟩ := execute_fst_eq_error_iff.mp herror
  rcases execute_snd_of_error herror with hnew | hsame
  · cases hc.symm.trans hnew
    obtain ⟨name, hname, -⟩ := hfails
    exact absurd hnames (exists_isFirstTaken_iff.mp ⟨name, hname⟩)
  · rwa [h] at hsame

end Interpreter

end Discourse
