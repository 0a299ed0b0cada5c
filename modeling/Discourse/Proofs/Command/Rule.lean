import Discourse.Proofs.Command.Enumeration

/-!
# Editing a rule

However the edit of a rule is written, it is the same command. The third word says what is edited,
so only one form reads the line; of the rule it keeps the list as it stands, and the conclusion
without what comes after it.

* `Grammar.forall_forms_of_edit`: the one form that reads the line.
* `Spelling.InferenceLine.match?_inferenceForm`, `Spelling.IncompatibilityLine.match?_form`: what
  that form keeps.
* `Command.parse?_inferenceLine`, `Command.parse?_incompatibilityLine`: what the line asks for.
-/

namespace Discourse

open Text (AllBlank Solid words)
open Pattern (text sequence group few Stops)

/-! ## The one form that reads the line -/

namespace Command

variable {line : String} {c : Command}

/-- A line asks for something if some form says so and no form says anything else. -/
theorem parse?_eq_some_of_forall
    (hsome : ∃ form ∈ Grammar.forms, (form.pattern.match? line).bind form.command? = some c)
    (hall : ∀ form ∈ Grammar.forms, form.pattern.match? line = none ∨
      (form.pattern.match? line).bind form.command? = some c) : parse? line = some c := by
  cases hparse : parse? line with
  | none =>
    obtain ⟨form, hform, hc⟩ := hsome
    rw [parse?_eq_none_iff.mp hparse form hform] at hc
    cases hc
  | some d =>
    obtain ⟨before, form, after, hforms, -, parts, hmatch, hd⟩ := parse?_eq_some_iff.mp hparse
    have hform : form ∈ Grammar.forms := hforms ▸ List.mem_append_right _ List.mem_cons_self
    rcases hall form hform with hnone | hc
    · rw [hnone] at hmatch
      cases hmatch
    · rw [hmatch, Option.bind_some, hd] at hc
      exact hc

end Command

namespace Grammar

variable {line : String} {first third : List Char} {edit : Edit}

theorem eq_of_verb_eq {e : Edit} (h : edit.verb.toList = e.verb.toList) : edit = e := by
  revert h
  cases edit <;> cases e <;> decide

theorem eq_of_word_prefix {kind other : InferenceKind}
    (h : other.word.toList <+: kind.word.toList) : other = kind := by
  revert h
  cases other <;> cases kind <;> decide

/-- What holds of a form that does not read the line holds of all forms, if it holds of those for
the rule that the third word is about. -/
theorem forall_forms_of_edit {P : Form → Prop} (h : Opens line first edit.verb.toList third)
    (hon : third ≠ "on".toList) (hnone : ∀ form : Form, form.pattern.match? line = none → P form)
    (hinference : ∀ kind, kind.word.toList <+: third → P (inferenceForm edit kind))
    (hincompatibility : "incompatibility".toList <+: third → P (incompatibilityForm edit)) :
    ∀ form ∈ forms, P form := by
  have hkeyword : ∀ form ∈ keywordForms, P form := fun form hform =>
    hnone form (match?_keywordForms_eq_none h (by cases edit <;> decide) (fun hs => hon hs.2) form
      hform)
  have hspeech : ∀ (verb : String) (c : String → Sentence → Command), Solid verb.toList →
      ¬ verb.toList <+: edit.verb.toList → P (speechForm verb c) := fun verb c hverb hsecond =>
    hnone (speechForm verb c) (match?_eq_none_of_verb h hverb hsecond)
  have hchallenge : P challengeForm :=
    hnone challengeForm (match?_eq_none_of_verb h (by decide) (by cases edit <;> decide))
  have hwithdraw : P withdrawForm :=
    hnone withdrawForm (match?_withdrawForm_eq_none h (by cases edit <;> decide))
  have hrule : ∀ e kind, P (inferenceForm e kind) := fun e kind => by
    by_cases hthird : edit.verb.toList = e.verb.toList → ¬ kind.word.toList <+: third
    · exact hnone (inferenceForm e kind)
        (match?_eq_none_of_edit h (by cases kind <;> decide) hthird)
    · obtain ⟨hverb, hword⟩ := not_forall.mp hthird
      exact eq_of_verb_eq hverb ▸ hinference kind (not_not.mp hword)
  have hset : ∀ e, P (incompatibilityForm e) := fun e => by
    by_cases hthird : edit.verb.toList = e.verb.toList → ¬ "incompatibility".toList <+: third
    · exact hnone (incompatibilityForm e) (match?_eq_none_of_edit h (by decide) hthird)
    · obtain ⟨hverb, hword⟩ := not_forall.mp hthird
      exact eq_of_verb_eq hverb ▸ hincompatibility (not_not.mp hword)
  have hdescribe : P (withOne [name, gap] .describe) :=
    hnone (withOne [name, gap] .describe)
      (match?_eq_none_of_word h solid_of_reads_name (c := .quit))
  have hforms : forms = keywordForms ++ [speechForm "asserts" .assert,
      speechForm "disavows" .disavow, challengeForm, withdrawForm, inferenceForm .add .committive,
      inferenceForm .add .permissive, inferenceForm .remove .committive,
      inferenceForm .remove .permissive, incompatibilityForm .add, incompatibilityForm .remove,
      withOne [name, gap] .describe] := rfl
  simp only [hforms, List.forall_mem_append, List.forall_mem_cons]
  exact ⟨hkeyword, hspeech "asserts" _ (by decide) (by cases edit <;> decide),
    hspeech "disavows" _ (by decide) (by cases edit <;> decide), hchallenge, hwithdraw,
    hrule .add .committive, hrule .add .permissive, hrule .remove .committive,
    hrule .remove .permissive, hset .add, hset .remove, hdescribe, by simp⟩

end Grammar

namespace Spelling

variable {speaker : String} {edit : Edit} {kind : InferenceKind} {what rule : List Char}

/-! ## The heading -/

theorem Heading.words_line (w : Heading) (hname : IsName speaker) :
    words (w.line speaker edit what rule).toList = speaker.toList :: edit.verb.toList ::
      words (what ++ (optional ':' w.colon ++ (w.afterHeading.chars ++ rule))) := by
  have hverb : Solid edit.verb.toList := by cases edit <;> decide
  rw [line, String.toList_ofList, Text.words_blanks_append w.lead.allBlank,
    Text.words_solid_spacing hname.solid w.afterName.spacing,
    Text.words_solid_spacing hverb w.afterVerb.spacing]

theorem Heading.stops_colon (w : Heading) :
    Stops (.oneOf [':']) (w.afterHeading.chars ++ rule) :=
  Pattern.stops_append w.afterHeading.nonempty fun c hc => Bool.eq_false_iff.mpr fun hmark => by
    rw [List.mem_singleton.mp (List.contains_iff_mem.mp hmark)] at hc
    exact absurd (w.afterHeading.blank _ hc) (by decide)

/-- The speaker and the verb. -/
theorem Heading.fits?_speaker (w : Heading) (hname : IsName speaker) {parts : List Pattern}
    {kept : List String} (hwhat : Stops .blank
      (what ++ (optional ':' w.colon ++ (w.afterHeading.chars ++ rule))))
    (h : (sequence parts).fits?
      (what ++ (optional ':' w.colon ++ (w.afterHeading.chars ++ rule))) = some kept) :
    (sequence (Grammar.gap :: Grammar.name :: Grammar.space :: text edit.verb :: Grammar.space ::
      parts)).match? (w.line speaker edit what rule) = some (speaker :: kept) := by
  have hverb : Solid edit.verb.toList := by cases edit <;> decide
  rw [Pattern.match?_eq_fits?, line, String.toList_ofList]
  exact Grammar.fits?_gap w.lead.allBlank (Grammar.stops_blank hname.solid)
    (Grammar.fits?_name hname (Grammar.stops_word w.afterName.spacing)
      (Grammar.fits?_space w.afterName.spacing (Grammar.stops_blank hverb)
        (Grammar.fits?_text (Grammar.fits?_space w.afterVerb.spacing hwhat h))))

/-! ## An inference -/

/-- A conclusion at the end of a line, without the period and the blanks after it. -/
theorem Clean.fits?_conclusion {conclusion : String} (h : Clean conclusion) (afterSign : Gap)
    (period : Bool) {blanks : List Char} (hblanks : AllBlank blanks) :
    (sequence [Grammar.gap, group (few (.noneOf ['.'])), Grammar.sentenceEnd]).fits?
      (afterSign.chars ++ (conclusion.toList ++ (optional '.' period ++ blanks))) =
        some [conclusion] := by
  obtain ⟨c, cs, hcs⟩ := List.exists_cons_of_ne_nil h.toList_ne_nil
  have hstops : Stops .blank (conclusion.toList ++ (optional '.' period ++ blanks)) := by
    rw [hcs]
    exact Pattern.stops_cons (h.isTrimmed.1 c (by rw [hcs]; rfl))
  have hrun : ∀ d ∈ conclusion.toList, (CharClass.noneOf ['.']).has d = true := fun d hd => by
    have hperiod : d ≠ '.' := fun he => h.noMark '.' (by simp) (he ▸ hd)
    simp [CharClass.has, hperiod]
  -- The last character of the conclusion is no blank and no period, so the end comes after it.
  have hearlier : ∀ first second, conclusion.toList = first ++ second → first ≠ [] → second ≠ [] →
      ¬ (sequence [Grammar.sentenceEnd]).Reads (second ++ (optional '.' period ++ blanks)) := by
    intro first second hsplit _ hne hreads
    obtain ⟨d, hd⟩ := Option.isSome_iff_exists.mp (List.getLast?_isSome.mpr hne)
    have hmem : d ∈ second := List.mem_of_mem_getLast? hd
    have hlast : d ∈ conclusion.toList.getLast? := by
      rw [hsplit, List.getLast?_append_of_ne_nil _ hne]
      exact hd
    have hends := Grammar.forall_mem_of_reads_sentenceEnd hreads
    rcases hends d (List.mem_append_left _ hmem) with hb | hb
    · exact absurd hb (by simp [h.isTrimmed.2 d hlast])
    · exact h.noMark d (by simp [hb]) (hsplit ▸ List.mem_append_right first hmem)
  have hfits := Pattern.fits?_seq_group_few h.toList_ne_nil hrun hearlier
    (Grammar.fits?_sentenceEnd hblanks)
  rw [String.ofList_toList] at hfits
  exact Grammar.fits?_gap afterSign.blank hstops hfits

theorem head?_append_ne {c : Char} {cs rest : List Char} (hcs : c ∉ cs)
    (hrest : rest.head? ≠ some c) :
    (cs ++ rest).head? ≠ some c := by
  cases cs with
  | nil => exact hrest
  | cons d cs => exact fun he => hcs (Option.some.inj he ▸ List.mem_cons_self)

/-- The premises, up to the sign. -/
theorem InferenceText.fits?_premises (w : InferenceText)
    (hpremises : ∀ s ∈ w.premises.items, Clean s)
    (blanks : Space) {parts : List Pattern} {kept : List String} {rest : List Char}
    (h : (sequence parts).fits? rest = some kept) :
    (sequence (Grammar.space :: Grammar.sentences :: Grammar.gap :: text "|-" :: parts)).fits?
      (blanks.chars ++ (w.premises.chars ++ (w.beforeSign.chars ++ ("|-".toList ++ rest)))) =
        some (String.ofList w.premises.body :: kept) := by
  have hsign : Solid "|-".toList := by decide
  have hright : '-' ∉ w.premises.brackets.right := by cases w.premises.brackets <;> decide
  have hhead : ("|-".toList ++ rest).head? ≠ some '-' := by
    rw [List.head?_append_of_ne_nil _ hsign.1]
    decide
  refine Grammar.fits?_sentences blanks.spacing hpremises w.beforeSign.allBlank
    (Grammar.stops_blank hsign) (Pattern.stops_cons (by decide)) ?_ (Grammar.fits?_text h)
  intro earlier later hsplit _ hne
  refine Grammar.not_reads_sign hpremises hsplit hne ?_
  exact head?_append_ne (w.premises.outer.allBlank.not_mem (by decide))
    (head?_append_ne hright
      (head?_append_ne (w.beforeSign.allBlank.not_mem (by decide)) hhead))

/-- The form of its kind keeps the list and the conclusion. -/
theorem InferenceLine.match?_inferenceForm (w : InferenceLine) (hname : IsName speaker)
    (hpremises : ∀ s ∈ w.rule.premises.items, Clean s) (hconclusion : Clean w.rule.conclusion) :
    (Grammar.inferenceForm edit kind).pattern.match? (w.line speaker edit kind) =
      some [speaker, String.ofList w.rule.premises.body, w.rule.conclusion] := by
  have hkind : Solid kind.word.toList := by cases kind <;> decide
  have hrule := w.rule.fits?_premises hpremises w.afterHeading
    (hconclusion.fits?_conclusion w.rule.afterSign w.rule.period w.trail.allBlank)
  have hcolon := Grammar.fits?_optionalMark (fun _ : w.colon = false => w.stops_colon) hrule
  refine w.fits?_speaker hname ?_ ?_ <;> simp only [InferenceText.chars, List.append_assoc]
  · exact Grammar.stops_blank hkind
  · exact Grammar.fits?_text (Grammar.fits?_space w.afterKind.spacing
      (Grammar.stops_blank (by decide)) (Grammar.fits?_text hcolon))

theorem InferenceLine.opens (w : InferenceLine) (hname : IsName speaker) :
    Grammar.Opens (w.line speaker edit kind) speaker.toList edit.verb.toList kind.word.toList := by
  have hkind : Solid kind.word.toList := by cases kind <;> decide
  rw [Grammar.Opens, line, w.words_line hname]
  simp only [List.append_assoc]
  rw [Text.words_solid_spacing hkind w.afterKind.spacing]
  exact ⟨_, rfl⟩

/-! ## An incompatibility -/

/-- The list at the end of a line. -/
theorem SetText.fits?_sentences (w : SetText) (hsentences : ∀ s ∈ w.sentences.items, Clean s)
    (blanks : Space) (trail : Gap) :
    (sequence [Grammar.space, Grammar.sentences, Grammar.gap, Grammar.sentenceEnd]).fits?
      (blanks.chars ++ (w.sentences.chars ++ (optional '.' w.period ++ trail.chars))) =
        some [String.ofList w.sentences.body] := by
  -- Without a period the blanks at the end follow the list at once.
  have hends : ∃ after rest, optional '.' w.period ++ trail.chars = after ++ rest ∧
      AllBlank after ∧ Stops .blank rest ∧ Stops (.oneOf [']', '}']) rest ∧
      (sequence [Grammar.sentenceEnd]).fits? rest = some [] := by
    have hend : ∀ present, ∀ {run}, AllBlank run →
        (sequence [Grammar.sentenceEnd]).fits? (optional '.' present ++ run) = some [] :=
      fun _ => Grammar.fits?_sentenceEnd
    cases w.period with
    | true =>
      exact ⟨[], _, rfl, Text.allBlank_nil, Pattern.stops_cons (by decide),
        Pattern.stops_cons (by decide), hend true trail.allBlank⟩
    | false =>
      exact ⟨trail.chars, [], (List.append_nil _).symm, trail.allBlank, Pattern.stops_nil,
        Pattern.stops_nil, hend false Text.allBlank_nil⟩
  obtain ⟨after, rest, hsplit, hafter, hblank, hmark, hend⟩ := hends
  rw [hsplit]
  exact Grammar.fits?_sentences blanks.spacing hsentences hafter hblank hmark
    (fun _ _ hbody _ hne => Grammar.not_reads_sentenceEnd hsentences hbody hne) hend

/-- The form keeps the list. -/
theorem IncompatibilityLine.match?_incompatibilityForm (w : IncompatibilityLine)
    (hname : IsName speaker) (hsentences : ∀ s ∈ w.rule.sentences.items, Clean s) :
    (Grammar.incompatibilityForm edit).pattern.match? (w.line speaker edit) =
      some [speaker, String.ofList w.rule.sentences.body] := by
  have hrule := w.rule.fits?_sentences hsentences w.afterHeading w.trail
  have hcolon := Grammar.fits?_optionalMark (fun _ : w.colon = false => w.stops_colon) hrule
  refine w.fits?_speaker hname ?_ ?_ <;> simp only [SetText.chars, List.append_assoc]
  · exact Grammar.stops_blank (by decide)
  · exact Grammar.fits?_text hcolon

theorem IncompatibilityLine.opens (w : IncompatibilityLine) (hname : IsName speaker) :
    Grammar.Opens (w.line speaker edit) speaker.toList edit.verb.toList
      ("incompatibility".toList ++ optional ':' w.colon) := by
  have hword : Solid ("incompatibility".toList ++ optional ':' w.colon) := by
    cases w.colon <;> decide
  rw [Grammar.Opens, line, w.words_line hname, ← List.append_assoc,
    Text.words_solid_spacing hword w.afterHeading.spacing]
  exact ⟨_, rfl⟩

end Spelling

/-! ## The command -/

namespace Command

open Spelling (IsName Clean InferenceLine IncompatibilityLine)

variable {speaker : String} {edit : Edit} {kind : InferenceKind}

/-- A line that edits an inference asks for just that. -/
theorem parse?_inferenceLine (w : InferenceLine) (hname : IsName speaker)
    (hpremises : ∀ s ∈ w.rule.premises.items, Clean s) (hconclusion : Clean w.rule.conclusion) :
    parse? (w.line speaker edit kind) = some (.editInference speaker edit kind
      (w.rule.premises.items.map Text.ofString) w.rule.conclusion) := by
  have hmatch : ((Grammar.inferenceForm edit kind).pattern.match? (w.line speaker edit kind)).bind
      (Grammar.inferenceForm edit kind).command? = some (.editInference speaker edit kind
        (w.rule.premises.items.map Text.ofString) w.rule.conclusion) := by
    have hcommand : ∀ premises conclusion : String,
        (Grammar.inferenceForm edit kind).command? [speaker, premises, conclusion] =
          some (.editInference speaker edit kind (sentencesOf premises) (Text.trim conclusion)) :=
      fun _ _ => rfl
    rw [w.match?_inferenceForm hname hpremises hconclusion, Option.bind_some, hcommand,
      hconclusion.trimmed, Spelling.Enumeration.sentencesOf_body hpremises]
  have hform : Grammar.inferenceForm edit kind ∈ Grammar.forms := by
    cases edit <;> cases kind <;> simp [Grammar.forms]
  refine parse?_eq_some_of_forall ⟨_, hform, hmatch⟩ ?_
  refine Grammar.forall_forms_of_edit (w.opens hname) (by cases kind <;> decide)
    (fun _ => Or.inl) (fun other hother => Or.inr ?_) fun hother => ?_
  · rwa [Grammar.eq_of_word_prefix hother]
  · exact absurd hother (by cases kind <;> decide)

/-- A line that edits an incompatibility asks for just that. -/
theorem parse?_incompatibilityLine (w : IncompatibilityLine) (hname : IsName speaker)
    (hsentences : ∀ s ∈ w.rule.sentences.items, Clean s) :
    parse? (w.line speaker edit) = some (.editIncompatibility speaker edit
      (w.rule.sentences.items.map Text.ofString)) := by
  have hmatch : ((Grammar.incompatibilityForm edit).pattern.match? (w.line speaker edit)).bind
      (Grammar.incompatibilityForm edit).command? = some (.editIncompatibility speaker edit
        (w.rule.sentences.items.map Text.ofString)) := by
    have hcommand : ∀ sentences : String,
        (Grammar.incompatibilityForm edit).command? [speaker, sentences] =
          some (.editIncompatibility speaker edit (sentencesOf sentences)) := fun _ => rfl
    rw [w.match?_incompatibilityForm hname hsentences, Option.bind_some, hcommand,
      Spelling.Enumeration.sentencesOf_body hsentences]
  have hform : Grammar.incompatibilityForm edit ∈ Grammar.forms := by
    cases edit <;> simp [Grammar.forms]
  refine parse?_eq_some_of_forall ⟨_, hform, hmatch⟩ ?_
  refine Grammar.forall_forms_of_edit (w.opens hname) (by cases w.colon <;> decide)
    (fun _ => Or.inl) (fun other hother => ?_) fun _ => Or.inr hmatch
  exact absurd hother (by cases w.colon <;> cases other <;> decide)

end Command

end Discourse
