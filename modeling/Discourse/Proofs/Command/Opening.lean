import Discourse.Proofs.Command.Reading
import Discourse.Proofs.Pattern.Language
import Discourse.Proofs.Text.Words

/-!
# How a line opens

Each form prescribes the first words of a line, so that a line of at least three words can be read
by few forms. The forms without a speaker are for short lines, or have a second word of their own;
of a form with a speaker the second word begins with the verb, and where a rule is edited the third
word says which kind of rule.

* `Grammar.reads_gap`, `Grammar.reads_space`, `Grammar.reads_name`: the parts of a form.
* `Grammar.Opens`: the first three words of a line.
* `Grammar.Opens.keywordForms`, `Grammar.Opens.speechForm`, …: the forms that do not read it.
-/

namespace Discourse.Grammar

open Pattern (text sequence maybe anyOf)
open Text (AllBlank Spacing Solid words)

variable {parts : List Pattern} {cs : List Char}

/-! ## The parts of a form -/

theorem reads_gap : gap.Reads cs ↔ AllBlank cs := Pattern.reads_many

theorem reads_space : space.Reads cs ↔ Spacing cs := Pattern.reads_some

theorem reads_name : name.Reads cs ↔ cs ≠ [] ∧ ∀ c ∈ cs, Text.isWordChar c = true :=
  Pattern.reads_group.trans Pattern.reads_some

theorem solid_of_reads_name (h : name.Reads cs) : Solid cs := by
  obtain ⟨hne, hword⟩ := reads_name.mp h
  exact ⟨hne, fun c hc => Text.isBlank_of_isWordChar (hword c hc)⟩

theorem reads_anyOf {ss : List String} (hne : ss ≠ []) :
    (anyOf ss).Reads cs ↔ ∃ s ∈ ss, cs = s.toList := by
  induction ss with
  | nil => exact absurd rfl hne
  | cons s ss ih =>
    cases ss with
    | nil => simp [anyOf]
    | cons t ss =>
      rw [Pattern.anyOf_cons_cons, Pattern.reads_either, Pattern.reads_text, ih (by simp)]
      simp

theorem solid_of_reads_anyOf {ss : List String} (hne : ss ≠ []) (hss : ∀ s ∈ ss, Solid s.toList)
    (h : (anyOf ss).Reads cs) : Solid cs := by
  obtain ⟨s, hs, rfl⟩ := (reads_anyOf hne).mp h
  exact hss s hs

/-! ## The words of what a form reads -/

theorem words_of_reads_gap (h : (sequence (gap :: parts)).Reads cs) :
    ∃ rest, words cs = words rest ∧ (sequence parts).Reads rest := by
  obtain ⟨blanks, rest, rfl, hblanks, hrest⟩ := Pattern.reads_sequence_cons.mp h
  exact ⟨rest, Text.words_blanks_append (reads_gap.mp hblanks) rest, hrest⟩

/-- A word with blanks after it. -/
theorem words_of_reads_spaced {p : Pattern} (hp : ∀ {run}, p.Reads run → Solid run)
    (h : (sequence (p :: space :: parts)).Reads cs) :
    ∃ word rest, p.Reads word ∧ words cs = word :: words rest ∧ (sequence parts).Reads rest := by
  obtain ⟨word, after, rfl, hword, hafter⟩ := Pattern.reads_sequence_cons.mp h
  obtain ⟨blanks, rest, rfl, hblanks, hrest⟩ := Pattern.reads_sequence_cons.mp hafter
  have hwords := Text.words_solid_spacing (hp hword) (reads_space.mp hblanks) rest
  exact ⟨word, rest, hword, hwords, hrest⟩

/-- A text with blanks after it. -/
theorem words_of_reads_text_space {s : String} (hs : Solid s.toList)
    (h : (sequence (text s :: space :: parts)).Reads cs) :
    ∃ rest, words cs = s.toList :: words rest ∧ (sequence parts).Reads rest := by
  have hsolid : ∀ {run}, (text s).Reads run → Solid run := fun hrun =>
    Pattern.reads_text.mp hrun ▸ hs
  obtain ⟨word, rest, hword, hwords, hrest⟩ := words_of_reads_spaced hsolid h
  exact ⟨rest, Pattern.reads_text.mp hword ▸ hwords, hrest⟩

/-- A text with anything after it. -/
theorem words_of_reads_text {s : String} (hs : Solid s.toList)
    (h : (sequence (text s :: parts)).Reads cs) :
    ∃ more rest, words cs = (s.toList ++ more) :: rest := by
  obtain ⟨run, rest, rfl, hrun, -⟩ := Pattern.reads_sequence_cons.mp h
  rw [Pattern.reads_text.mp hrun]
  exact Text.exists_words_solid_append hs rest

/-- A word at the end. -/
theorem words_of_reads_last {p : Pattern} (hp : ∀ {run}, p.Reads run → Solid run)
    (h : (sequence [p, gap]).Reads cs) : ∃ word, words cs = [word] := by
  obtain ⟨word, after, rfl, hword, hafter⟩ := Pattern.reads_sequence_cons.mp h
  obtain ⟨blanks, rest, rfl, hblanks, hrest⟩ := Pattern.reads_sequence_cons.mp hafter
  rw [Pattern.reads_sequence_nil.mp hrest, List.append_nil]
  exact ⟨word, Text.words_solid_blanks (hp hword) (reads_gap.mp hblanks)⟩

/-- Two texts that blanks may separate or not. -/
theorem reads_text_gap_text {s t : String} (hs : Solid s.toList)
    (h : (sequence (text s :: gap :: text t :: parts)).Reads cs) :
    ∃ rest, (sequence parts).Reads rest ∧
      (cs = (s.toList ++ t.toList) ++ rest ∨
        words cs = s.toList :: words (t.toList ++ rest)) := by
  obtain ⟨first, after, rfl, hfirst, hafter⟩ := Pattern.reads_sequence_cons.mp h
  obtain ⟨blanks, after, rfl, hblanks, hafter⟩ := Pattern.reads_sequence_cons.mp hafter
  obtain ⟨second, rest, rfl, hsecond, hrest⟩ := Pattern.reads_sequence_cons.mp hafter
  rw [Pattern.reads_text.mp hfirst, Pattern.reads_text.mp hsecond]
  refine ⟨rest, hrest, ?_⟩
  by_cases hne : blanks = []
  · exact Or.inl (by rw [hne]; simp)
  · exact Or.inr (Text.words_solid_spacing hs ⟨hne, reads_gap.mp hblanks⟩ _)

/-! ## The opening of a line -/

/-- The first three words of a line. -/
def Opens (line : String) (first second third : List Char) : Prop :=
  ∃ more, words line.toList = first :: second :: third :: more

variable {line : String} {first second third : List Char}

theorem match?_eq_none_of_words {p : Pattern} (h : Opens line first second third)
    (hother : ∀ cs more, p.Reads cs → words cs ≠ first :: second :: third :: more) :
    p.match? line = none := by
  obtain ⟨more, hwords⟩ := h
  exact Pattern.match?_eq_none_iff.mpr fun hreads => hother _ more hreads hwords

/-! ### Forms without a speaker -/

/-- One word is not enough. -/
theorem match?_eq_none_of_word {p : Pattern} (h : Opens line first second third)
    (hword : ∀ {cs}, p.Reads cs → Solid cs) {c : Command} :
    (bare [p] c).pattern.match? line = none := by
  refine match?_eq_none_of_words h fun cs more hreads hwords => ?_
  obtain ⟨rest, hrest, hreads⟩ := words_of_reads_gap hreads
  obtain ⟨word, hword⟩ := words_of_reads_last hword hreads
  rw [hrest, hword] at hwords
  simp at hwords

/-- Two words are not enough. -/
theorem length_words_le_two {s t : String} (hs : Solid s.toList) (ht : Solid t.toList)
    (h : (sequence [text s, gap, text t, gap]).Reads cs) : (words cs).length ≤ 2 := by
  obtain ⟨rest, hrest, hcases⟩ := reads_text_gap_text hs h
  obtain ⟨blanks, last, rfl, hblanks, hlast⟩ := Pattern.reads_sequence_cons.mp hrest
  rw [Pattern.reads_sequence_nil.mp hlast, List.append_nil] at hcases
  rcases hcases with rfl | hcases
  · rw [Text.words_solid_blanks (hs.append ht) (reads_gap.mp hblanks)]
    simp
  · rw [hcases, Text.words_solid_blanks ht (reads_gap.mp hblanks)]
    simp

theorem match?_eq_none_of_two {s t : String} (h : Opens line first second third)
    (hs : Solid s.toList) (ht : Solid t.toList) {c : Command} :
    (bare [text s, gap, text t] c).pattern.match? line = none := by
  refine match?_eq_none_of_words h fun cs more hreads hwords => ?_
  obtain ⟨rest, hrest, hreads⟩ := words_of_reads_gap hreads
  have hle := length_words_le_two hs ht hreads
  rw [← hrest, hwords] at hle
  simp at hle

theorem match?_agents_eq_none (h : Opens line first second third) {c : Command} :
    (bare [maybe (text "list"), gap, text "agents"] c).pattern.match? line = none := by
  refine match?_eq_none_of_words h fun cs more hreads hwords => ?_
  obtain ⟨rest, hrest, hreads⟩ := words_of_reads_gap hreads
  rw [hrest] at hwords
  obtain ⟨list, after, rfl, hlist, hafter⟩ := Pattern.reads_sequence_cons.mp hreads
  rcases Pattern.reads_maybe.mp hlist with hlist | rfl
  · have hle := length_words_le_two (s := "list") (t := "agents") (by decide) (by decide)
      (Pattern.reads_sequence_cons.mpr ⟨list, after, rfl, hlist, hafter⟩)
    rw [hwords] at hle
    simp at hle
  · obtain ⟨rest, hrest, hreads⟩ := words_of_reads_gap hafter
    obtain ⟨word, hword⟩ := words_of_reads_last
      (fun h => Pattern.reads_text.mp h ▸ (by decide : Solid "agents".toList)) hreads
    rw [List.nil_append, hrest, hword] at hwords
    simp at hwords

theorem match?_aboutAgent_eq_none {s : String} (h : Opens line first second third)
    (hs : Solid s.toList) (hsecond : second ≠ "agent".toList) {c : String → Command} :
    (withOne [text s, gap, text "agent", space, name, gap] c).pattern.match? line = none := by
  refine match?_eq_none_of_words h fun cs more hreads hwords => ?_
  have hagent : Solid "agent".toList := by decide
  obtain ⟨run, hrun, hreads⟩ := words_of_reads_gap hreads
  obtain ⟨rest, hrest, hcases⟩ := reads_text_gap_text hs hreads
  obtain ⟨blanks, last, rfl, hblanks, hlast⟩ := Pattern.reads_sequence_cons.mp hrest
  obtain ⟨word, hword⟩ := words_of_reads_last solid_of_reads_name hlast
  have hspacing := reads_space.mp hblanks
  rcases hcases with rfl | hcases
  · rw [hrun, Text.words_solid_spacing (hs.append hagent) hspacing, hword] at hwords
    simp at hwords
  · rw [hrun, hcases, Text.words_solid_spacing hagent hspacing] at hwords
    exact hsecond (List.cons.inj (List.cons.inj hwords).2).1.symm

theorem match?_scoreOf_eq_none (h : Opens line first second third)
    (hsecond : second ≠ "of".toList)
    (hfirst : ¬ (first = "scoreof".toList ∧ third = "on".toList)) {c : String → String → Command} :
    (withTwo [text "score", gap, text "of", space, name, space, text "on", space, name, gap]
      c).pattern.match? line = none := by
  refine match?_eq_none_of_words h fun cs more hreads hwords => ?_
  have hof : Solid "of".toList := by decide
  obtain ⟨run, hrun, hreads⟩ := words_of_reads_gap hreads
  obtain ⟨rest, hrest, hcases⟩ := reads_text_gap_text (by decide) hreads
  obtain ⟨blanks, last, rfl, hblanks, hlast⟩ := Pattern.reads_sequence_cons.mp hrest
  obtain ⟨word, last, -, hword, hlast⟩ := words_of_reads_spaced solid_of_reads_name hlast
  obtain ⟨last, hon, -⟩ := words_of_reads_text_space (by decide) hlast
  have hspacing := reads_space.mp hblanks
  rcases hcases with rfl | hcases
  · rw [hrun, Text.words_solid_spacing (by decide) hspacing, hword, hon] at hwords
    obtain ⟨hscore, htail⟩ := List.cons.inj hwords
    exact hfirst ⟨hscore.symm, (List.cons.inj (List.cons.inj htail).2).1.symm⟩
  · rw [hrun, hcases, Text.words_solid_spacing hof hspacing] at hwords
    exact hsecond (List.cons.inj (List.cons.inj hwords).2).1.symm

theorem match?_scoreOn_eq_none (h : Opens line first second third)
    (hsecond : second ≠ "score".toList) {c : String → String → Command} :
    (withTwo [name, text "'s", space, text "score", space, text "on", space, name, gap]
      c).pattern.match? line = none := by
  refine match?_eq_none_of_words h fun cs more hreads hwords => ?_
  obtain ⟨run, hrun, hreads⟩ := words_of_reads_gap hreads
  obtain ⟨word, after, rfl, hword, hafter⟩ := Pattern.reads_sequence_cons.mp hreads
  obtain ⟨mark, after, rfl, hmark, hafter⟩ := Pattern.reads_sequence_cons.mp hafter
  obtain ⟨blanks, rest, rfl, hblanks, hrest⟩ := Pattern.reads_sequence_cons.mp hafter
  obtain ⟨rest, hscore, -⟩ := words_of_reads_text_space (by decide) hrest
  have hfirst : Solid (word ++ mark) := by
    rw [Pattern.reads_text.mp hmark]
    exact (solid_of_reads_name hword).append (by decide)
  rw [hrun, ← List.append_assoc, Text.words_solid_spacing hfirst (reads_space.mp hblanks),
    hscore] at hwords
  exact hsecond (List.cons.inj (List.cons.inj hwords).2).1.symm

theorem match?_setIntelligence_eq_none (h : Opens line first second third)
    (hsecond : second ≠ "intelligence".toList) {rest : List Pattern}
    {c : String → String → Command} :
    (withTwo (text "set" :: space :: text "intelligence" :: space :: rest) c).pattern.match? line =
      none := by
  refine match?_eq_none_of_words h fun cs more hreads hwords => ?_
  obtain ⟨run, hrun, hreads⟩ := words_of_reads_gap hreads
  obtain ⟨after, hset, hreads⟩ := words_of_reads_text_space (by decide) hreads
  obtain ⟨after, hintelligence, -⟩ := words_of_reads_text_space (by decide) hreads
  rw [hrun, hset, hintelligence] at hwords
  exact hsecond (List.cons.inj (List.cons.inj hwords).2).1.symm

/-- The forms that begin with a keyword. -/
def keywordForms : List Form := forms.take 10

/-- A line of three words is read by no form without a speaker, unless its second word is one of
theirs or the line is about a score. -/
theorem match?_keywordForms_eq_none (h : Opens line first second third)
    (hsecond : ∀ s ∈ ["agent", "of", "score", "intelligence"], second ≠ s.toList)
    (hscore : ¬ (first = "scoreof".toList ∧ third = "on".toList)) :
    ∀ form ∈ keywordForms, form.pattern.match? line = none := by
  simp only [List.forall_mem_cons] at hsecond
  obtain ⟨hagent, hof, hon, hset, -⟩ := hsecond
  have hquit : ∀ {cs}, (anyOf ["quit", "exit"]).Reads cs → Solid cs :=
    solid_of_reads_anyOf (by simp) (by decide)
  simp only [keywordForms, forms, List.take_succ_cons, List.take_zero, List.forall_mem_cons]
  exact ⟨match?_eq_none_of_word h hquit,
    match?_eq_none_of_word h fun hreads =>
      Pattern.reads_text.mp hreads ▸ (by decide : Solid "help".toList),
    match?_agents_eq_none h, match?_aboutAgent_eq_none h (by decide) hagent,
    match?_aboutAgent_eq_none h (by decide) hagent,
    match?_eq_none_of_two h (by decide) (by decide), match?_scoreOf_eq_none h hof hscore,
    match?_scoreOn_eq_none h hon,
    match?_eq_none_of_word h fun hreads =>
      Pattern.reads_text.mp hreads ▸ (by decide : Solid "score".toList),
    match?_setIntelligence_eq_none h hset, by simp⟩

/-! ### Forms with a speaker -/

/-- The speaker is the first word. -/
theorem words_of_reads_speaker (h : (sequence (gap :: name :: space :: parts)).Reads cs) :
    ∃ speaker rest, words cs = speaker :: words rest ∧ (sequence parts).Reads rest := by
  obtain ⟨run, hrun, hreads⟩ := words_of_reads_gap h
  obtain ⟨speaker, rest, -, hwords, hrest⟩ := words_of_reads_spaced solid_of_reads_name hreads
  exact ⟨speaker, rest, hrun.trans hwords, hrest⟩

/-- The verb is at the beginning of the second word. -/
theorem match?_eq_none_of_verb {verb : String} (h : Opens line first second third)
    (hverb : Solid verb.toList) (hsecond : ¬ verb.toList <+: second) :
    (sequence (gap :: name :: space :: text verb :: parts)).match? line = none := by
  refine match?_eq_none_of_words h fun cs more hreads hwords => hsecond ?_
  obtain ⟨speaker, rest, hspeaker, hreads⟩ := words_of_reads_speaker hreads
  obtain ⟨tail, others, hrest⟩ := words_of_reads_text hverb hreads
  rw [hspeaker, hrest] at hwords
  exact ⟨tail, (List.cons.inj (List.cons.inj hwords).2).1⟩

theorem match?_withdrawForm_eq_none (h : Opens line first second third)
    (hsecond : ∀ verb ∈ ["abandons", "withdraws"], second ≠ verb.toList) :
    withdrawForm.pattern.match? line = none := by
  have hsolid : ∀ verb ∈ ["abandons", "withdraws"], Solid verb.toList := by decide
  refine match?_eq_none_of_words h fun cs more hreads hwords => ?_
  obtain ⟨speaker, rest, hspeaker, hreads⟩ := words_of_reads_speaker hreads
  obtain ⟨verb, after, rfl, hverb, hafter⟩ := Pattern.reads_sequence_cons.mp hreads
  obtain ⟨s, hs, rfl⟩ := (reads_anyOf (by simp)).mp hverb
  obtain ⟨last, hlast, -⟩ := words_of_reads_text_space (hsolid s hs)
    (Pattern.reads_sequence_cons.mpr ⟨_, after, rfl, Pattern.reads_text.mpr rfl, hafter⟩)
  rw [hspeaker, hlast] at hwords
  exact hsecond s hs (List.cons.inj (List.cons.inj hwords).2).1.symm

/-- What is edited is at the beginning of the third word. -/
theorem match?_eq_none_of_edit {edit : Edit} {word : String} (h : Opens line first second third)
    (hword : Solid word.toList) (hthird : second = edit.verb.toList → ¬ word.toList <+: third) :
    (sequence (gap :: name :: space :: text edit.verb :: space :: text word ::
      parts)).match? line = none := by
  refine match?_eq_none_of_words h fun cs more hreads hwords => ?_
  obtain ⟨speaker, rest, hspeaker, hreads⟩ := words_of_reads_speaker hreads
  obtain ⟨rest, hverb, hreads⟩ := words_of_reads_text_space (by cases edit <;> decide) hreads
  obtain ⟨tail, others, hrest⟩ := words_of_reads_text hword hreads
  rw [hspeaker, hverb, hrest] at hwords
  obtain ⟨hsecond, htail⟩ := List.cons.inj (List.cons.inj hwords).2
  exact hthird hsecond.symm ⟨tail, (List.cons.inj htail).1⟩

end Discourse.Grammar
