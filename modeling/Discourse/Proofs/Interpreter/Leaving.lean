import Discourse.Proofs.Command.Opening
import Discourse.Proofs.Interpreter.Line
import Discourse.Proofs.Text.Whole

/-!
# Leaving

Whoever leaves says so in one word with nothing but blanks around it, and is wished goodbye. No
other line is answered in these words, whatever names and sentences stand in its answer.

* `asksToLeave`: one of the two words.
* `Command.parse?_eq_quit_iff`: what a line has to be to ask for that.
* `Command.MayAnswer`, `Command.mayAnswer_run`: what each command is answered.
* `Reply.text_eq_goodbyeText_iff`: in which words.
* `Interpreter.execute_eq_goodbye_iff`: a line.
-/

namespace Discourse

/-- The line is one of the two words for leaving but for blanks around it. -/
def asksToLeave (line : String) : Bool := Text.trim line ∈ ["quit", "exit"]

/-! ## The word -/

open Text (AllBlank)

/-- Whether the command is to leave. -/
def Command.isQuit : Command → Bool
  | quit => true
  | _ => false

namespace Grammar

/-- The form of the word. -/
def leavingForm : Form := bare [Pattern.anyOf ["quit", "exit"]] .quit

theorem reads_bare {q : Pattern} {c : Command} {cs : List Char} :
    (bare [q] c).pattern.Reads cs ↔ ∃ before run after, AllBlank before ∧ AllBlank after ∧
      q.Reads run ∧ cs = before ++ (run ++ after) := by
  constructor
  · intro h
    obtain ⟨before, rest, rfl, hbefore, hrest⟩ := Pattern.reads_sequence_cons.mp h
    obtain ⟨run, last, rfl, hrun, hlast⟩ := Pattern.reads_sequence_cons.mp hrest
    obtain ⟨after, none, rfl, hafter, hnone⟩ := Pattern.reads_sequence_cons.mp hlast
    refine ⟨before, run, after, reads_gap.mp hbefore, reads_gap.mp hafter, hrun, ?_⟩
    rw [Pattern.reads_sequence_nil.mp hnone, List.append_nil]
  · rintro ⟨before, run, after, hbefore, hafter, hrun, rfl⟩
    refine Pattern.reads_sequence_cons.mpr ⟨before, _, rfl, reads_gap.mpr hbefore, ?_⟩
    refine Pattern.reads_sequence_cons.mpr ⟨run, after, rfl, hrun, ?_⟩
    exact Pattern.reads_sequence_cons.mpr ⟨after, [], (List.append_nil after).symm,
      reads_gap.mpr hafter, Pattern.reads_sequence_nil.mpr rfl⟩

theorem reads_leavingForm {line : String} :
    leavingForm.pattern.Reads line.toList ↔ asksToLeave line = true := by
  have hstrip : ∀ word ∈ ["quit", "exit"],
      Text.stripChars Text.isBlank word.toList = word.toList := by
    decide
  have htrimmed : ∀ word ∈ ["quit", "exit"], Text.IsTrimmed Text.isBlank word.toList :=
    fun word hword => Text.isTrimmed_iff.mpr (hstrip word hword)
  rw [asksToLeave, decide_eq_true_iff, leavingForm, reads_bare]
  constructor
  · rintro ⟨before, run, after, hbefore, hafter, hrun, hline⟩
    obtain ⟨word, hword, rfl⟩ := (reads_anyOf (List.cons_ne_nil _ _)).mp hrun
    have htrim : Text.trim line = word :=
      (Text.trim_eq_iff (htrimmed word hword)).mpr ⟨before, after, hbefore, hafter, hline⟩
    rwa [htrim]
  · intro hword
    obtain ⟨before, after, hbefore, hafter, hline⟩ := (Text.trim_eq_iff (htrimmed _ hword)).mp rfl
    exact ⟨before, _, after, hbefore, hafter,
      (reads_anyOf (List.cons_ne_nil _ _)).mpr ⟨_, hword, rfl⟩, hline⟩

theorem forms_stay : ∀ form ∈ forms.tail, form.Yields (·.isQuit = false) := by
  simp only [forms, List.tail_cons, List.forall_mem_cons]
  exact ⟨bare_yields rfl, bare_yields rfl, withOne_yields fun _ => rfl, withOne_yields fun _ => rfl,
    bare_yields rfl, withTwo_yields fun _ _ => rfl, withTwo_yields fun _ _ => rfl, bare_yields rfl,
    withTwo_yields fun _ _ => rfl, withTwo_yields fun _ _ => rfl, withTwo_yields fun _ _ => rfl,
    withThree_yields fun _ _ _ => rfl, withThree_yields fun _ _ _ => rfl,
    withThree_yields fun _ _ _ => rfl, withThree_yields fun _ _ _ => rfl,
    withThree_yields fun _ _ _ => rfl, withThree_yields fun _ _ _ => rfl,
    withTwo_yields fun _ _ => rfl, withTwo_yields fun _ _ => rfl, withOne_yields fun _ => rfl,
    by simp⟩

end Grammar

namespace Command

open Grammar (forms leavingForm)

theorem parse?_eq_quit_iff {line : String} :
    parse? line = some .quit ↔ asksToLeave line = true := by
  have hforms : forms = leavingForm :: forms.tail := rfl
  rw [← Grammar.reads_leavingForm]
  constructor
  · intro h
    obtain ⟨form, hform, hread⟩ := List.exists_of_findSome?_eq_some h
    obtain ⟨kept, hmatch, hc⟩ := Option.bind_eq_some_iff.mp hread
    rw [hforms] at hform
    rcases List.mem_cons.mp hform with rfl | hform
    · by_contra hnot
      rw [Pattern.match?_eq_none_iff.mpr hnot] at hmatch
      cases hmatch
    · cases Grammar.forms_stay form hform kept .quit hc
  · intro h
    have hread : leavingForm.pattern.match? line ≠ none := fun hnone =>
      Pattern.match?_eq_none_iff.mp hnone h
    obtain ⟨kept, hkept⟩ := Option.ne_none_iff_exists'.mp hread
    have hnothing : kept.length = 0 := Pattern.length_match? rfl hkept
    rw [List.length_eq_zero_iff.mp hnothing] at hkept
    exact parse?_eq_some_iff.mpr
      ⟨[], leavingForm, forms.tail, hforms, by rintro _ ⟨⟩, [], hkept, rfl⟩

/-! ## The answer -/

variable {settings : Settings} {p : Play} {r : Reply}

/-- What the command may be answered. -/
def MayAnswer (r : Reply) : Command → Prop
  | quit => r = .goodbye
  | help => r = .help
  | listAgents => ∃ ds, r = .descriptions ds
  | addAgent name => r = .added name ∨ r = .nameTaken name
  | removeAgent name => r = .removed name ∨ r = .nobodyNamed name
  | newGame => r = .welcome
  | score keeper other =>
    r = .agentNotFound keeper ∨ r = .agentNotFound other ∨ ∃ s, r = .score s
  | scoreAll => ∃ all, r = .scores all
  | setIntelligence name _ | assert name _ | editInference name _ _ _ _
  | editIncompatibility name _ _ => r = .agentNotFound name ∨ ∃ all, r = .scores all
  | disavow speaker s =>
    r = .notAsserted speaker s ∨ r = .agentNotFound speaker ∨ ∃ all, r = .scores all
  | challenge speaker target s =>
    (∃ name, r = .neverAsserted name s) ∨ r = .agentNotFound target ∨
      r = .agentNotFound speaker ∨ ∃ all, r = .scores all
  | withdraw speaker target _ =>
    r = .agentNotFound target ∨ r = .agentNotFound speaker ∨ ∃ all, r = .scores all
  | describe _ => r = .notRecognized ∨ ∃ d self, r = .portrait d self

theorem answer_change {name : String} {f : Agent → Agent} (h : (p.change name f).1 = .ok r) :
    r = .agentNotFound name ∨ ∃ all, r = .scores all := by
  unfold Play.change at h
  split at h
  · cases h
    exact .inl rfl
  · cases h
    exact .inr ⟨_, rfl⟩

theorem mayAnswer_runAddAgent {name : String} (h : (runAddAgent settings p name).1 = .ok r) :
    (addAgent name).MayAnswer r := by
  unfold runAddAgent at h
  split at h
  · cases h
    exact .inl rfl
  · cases h
    exact .inr rfl
  · cases h

theorem mayAnswer_runRemoveAgent {name : String} (h : (runRemoveAgent p name).1 = .ok r) :
    (removeAgent name).MayAnswer r := by
  unfold runRemoveAgent at h
  split at h
  · cases h
    exact .inl rfl
  · cases h
    exact .inr rfl

theorem mayAnswer_runNewGame (h : (runNewGame settings p).1 = .ok r) : newGame.MayAnswer r := by
  unfold runNewGame at h
  split at h
  · cases h
    rfl
  · cases h

theorem mayAnswer_scoreReply (g : Game) (keeper other : String) :
    (score keeper other).MayAnswer (scoreReply g keeper other) := by
  unfold scoreReply
  split
  · exact .inl rfl
  · split
    · exact .inr (.inl rfl)
    · exact .inr (.inr ⟨_, rfl⟩)

theorem mayAnswer_runSetIntelligence {name digits : String}
    (h : (runSetIntelligence p name digits).1 = .ok r) :
    (setIntelligence name digits).MayAnswer r := by
  unfold runSetIntelligence at h
  split at h
  · cases h
    exact .inl rfl
  · split at h
    · cases h
    · exact answer_change h

theorem mayAnswer_runDisavow {speaker : String} {s : Sentence}
    (h : (runDisavow p speaker s).1 = .ok r) : (disavow speaker s).MayAnswer r := by
  unfold runDisavow at h
  split at h
  · cases h
    exact .inr (.inl rfl)
  · split at h
    · exact .inr (answer_change h)
    · cases h
      exact .inl rfl

theorem mayAnswer_runChallenge {speaker target : String} {s : Sentence}
    (h : (runChallenge p speaker target s).1 = .ok r) :
    (challenge speaker target s).MayAnswer r := by
  unfold runChallenge at h
  split at h
  · cases h
    exact .inr (.inr (.inl rfl))
  · split at h
    · cases h
      exact .inr (.inl rfl)
    · split at h
      · cases h
        exact .inl ⟨_, rfl⟩
      · exact .inr (.inr (answer_change h))

theorem mayAnswer_runWithdraw {speaker target : String} {s : Sentence}
    (h : (runWithdraw p speaker target s).1 = .ok r) :
    (withdraw speaker target s).MayAnswer r := by
  unfold runWithdraw at h
  split at h
  · cases h
    exact .inr (.inl rfl)
  · split at h
    · exact .inr (answer_change h)
    · split at h
      · cases h
        exact .inl rfl
      · exact .inr (answer_change h)

theorem mayAnswer_describeReply (g : Game) (name : String) :
    (describe name).MayAnswer (describeReply g name) := by
  unfold describeReply
  split
  · exact .inl rfl
  · exact .inr ⟨_, _, rfl⟩

/-- A command is answered as it may be. -/
theorem mayAnswer_run {c : Command} (h : (c.run settings p).1 = .ok r) : c.MayAnswer r := by
  cases c with
  | quit | help =>
    cases h
    rfl
  | listAgents | scoreAll =>
    cases h
    exact ⟨_, rfl⟩
  | addAgent name => exact mayAnswer_runAddAgent h
  | removeAgent name => exact mayAnswer_runRemoveAgent h
  | newGame => exact mayAnswer_runNewGame h
  | score keeper other =>
    cases h
    exact mayAnswer_scoreReply p.game keeper other
  | setIntelligence name digits => exact mayAnswer_runSetIntelligence h
  | assert | editInference | editIncompatibility => exact answer_change h
  | disavow speaker s => exact mayAnswer_runDisavow h
  | challenge speaker target s => exact mayAnswer_runChallenge h
  | withdraw speaker target s => exact mayAnswer_runWithdraw h
  | describe name =>
    cases h
    exact mayAnswer_describeReply p.game name

theorem run_eq_goodbye_iff {c : Command} : (c.run settings p).1 = .ok .goodbye ↔ c = .quit := by
  constructor
  · intro h
    have hmay : c.MayAnswer .goodbye := mayAnswer_run h
    cases c with
    | quit => rfl
    | _ => simp [MayAnswer] at hmay
  · rintro rfl
    rfl

end Command

/-! ## The words -/

/-- How many line breaks a text has. -/
def lineBreaks (t : Text) : Nat := t.points.count (.char '\n')

@[simp] theorem lineBreaks_append (s t : Text) :
    lineBreaks (s ++ t) = lineBreaks s + lineBreaks t :=
  List.count_append

theorem lineBreaks_le_join (t : Text) (ts : List Text) :
    lineBreaks t ≤ lineBreaks (Text.join (t :: ts)) := by
  rw [Text.join, List.flatMap_cons]
  exact (List.sublist_append_left _ _).count_le _

theorem lineBreaks_le_intercalate (separator t : Text) (ts : List Text) :
    lineBreaks t ≤ lineBreaks (Text.intercalate separator (t :: ts)) := by
  cases ts with
  | nil => simp [Text.intercalate]
  | cons u ts =>
    rw [Text.intercalate, List.map_cons, List.map_cons, List.intercalate_cons_cons]
    exact ((List.sublist_append_left _ _).trans (List.sublist_append_left _ _)).count_le _

namespace Listing

theorem lineBreaks_agent (d : Description) (width : Int) : 2 ≤ lineBreaks (agent d width) := by
  have hdepth : lineBreaks "\nIntelligence = " = 1 := by decide +kernel
  have hend : lineBreaks "\n" = 1 := by decide +kernel
  simp only [agent, lineBreaks_append, hdepth, hend]
  omega

theorem lineBreaks_score (s : Score) (width : Int) : 2 ≤ lineBreaks (score s width) := by
  have hend : lineBreaks "\n\n" = 2 := by decide +kernel
  simp only [score, lineBreaks_append, hend]
  omega

end Listing

namespace Reply

open Listing (lineBreaks_agent lineBreaks_score)

theorem text_eq_goodbyeText_iff {width : Int} {r : Reply} :
    r.text width = goodbyeText ↔ r = .goodbye := by
  have hbreaks : ∀ t, 2 ≤ lineBreaks t → t ≠ Text.ofString goodbyeText := by
    rintro _ h rfl
    revert h
    decide +kernel
  have hhead : ∀ t : Text, t.points.head? ≠ some (.char 'G') → t ≠ Text.ofString goodbyeText := by
    rintro _ h rfl
    exact h rfl
  have hquote : .char '"' ∉ (Text.ofString goodbyeText).points := by decide +kernel
  have hhelp : helpText ≠ goodbyeText := by decide +kernel
  have hwelcome : welcomeText ≠ goodbyeText := by decide +kernel
  refine ⟨fun h => ?_, fun h => h ▸ rfl⟩
  -- A listing begins with any name, but has more line breaks; where a name begins another answer,
  -- there is a quote.
  cases r with
  | goodbye => rfl
  | help => exact absurd (Text.ofString_inj.mp h) hhelp
  | welcome => exact absurd (Text.ofString_inj.mp h) hwelcome
  | descriptions ds =>
    cases ds with
    | nil => exact absurd h (hhead _ (by rintro ⟨⟩))
    | cons d ds =>
      exact absurd h (hbreaks _ ((lineBreaks_agent d width).trans (lineBreaks_le_intercalate _ _ _)))
  | added | nameTaken | removed | nobodyNamed | agentNotFound | notAsserted | notRecognized =>
    exact absurd h (hhead _ (by rintro ⟨⟩))
  | score s => exact absurd h (hbreaks _ (lineBreaks_score s width))
  | scores all =>
    cases all with
    | nil => exact absurd h (hhead _ (by rintro ⟨⟩))
    | cons s all =>
      refine absurd h (hbreaks _ (le_trans ?_ (lineBreaks_le_join _ _)))
      rw [lineBreaks_append]
      exact (lineBreaks_score s width).trans (Nat.le_add_left _ _)
  | neverAsserted target sentence =>
    refine absurd ?_ hquote
    rw [← h, text]
    simp only [Text.points_append, List.mem_append]
    exact .inr (by decide +kernel)
  | portrait d self =>
    refine absurd h (hbreaks _ ?_)
    rw [text, lineBreaks_append]
    exact (lineBreaks_score self width).trans (Nat.le_add_left _ _)

end Reply

theorem answerOf_eq_goodbye_iff {width : Int} {result : Except CommandFailure Reply} :
    answerOf width result = .ok (Text.ofString Reply.goodbyeText) ↔ result = .ok .goodbye := by
  cases result with
  | error e => exact iff_of_false (by rintro ⟨⟩) (by rintro ⟨⟩)
  | ok r =>
    rw [answerOf, Except.map, Except.ok.injEq, Except.ok.injEq]
    exact Reply.text_eq_goodbyeText_iff

namespace Interpreter

theorem reply_eq_goodbye_iff (it : Interpreter) (p : Play) {line : String} :
    (it.reply p line).1 = .ok .goodbye ↔ asksToLeave line = true := by
  rw [← Command.parse?_eq_quit_iff, reply]
  cases hparse : Command.parse? line with
  | none => exact iff_of_false (by rintro ⟨⟩) (by rintro ⟨⟩)
  | some c =>
    rw [Option.some_inj]
    exact Command.run_eq_goodbye_iff

/-- A line is answered with the goodbye if it asks to leave, and otherwise never. -/
theorem execute_eq_goodbye_iff (it : Interpreter) (p : Play) {line : String} :
    (it.execute p line).1 = .ok (Text.ofString Reply.goodbyeText) ↔ asksToLeave line = true := by
  rw [execute_fst, answerOf_eq_goodbye_iff, reply_eq_goodbye_iff]

end Interpreter

end Discourse
