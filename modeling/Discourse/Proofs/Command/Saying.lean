import Discourse.Proofs.Command.Ending
import Discourse.Proofs.Command.Enumeration
import Discourse.Proofs.Pattern.Extension
import Discourse.Proofs.Text.Whole

/-!
# What is said at the end of a line

A form may end with what is said: a sentence or a list of sentences. One blank more at the end does
not change what is said, for the blanks around it are cut off. But what is said may itself consist
of blanks, so there may be nothing that is said before and, with one blank more, the empty sentence.

* `Grammar.Loose`: what is said, without the blanks around it.
* `Grammar.Steady`: the end of a form that keeps what is said.
* `Grammar.steady_utterance`: a sentence at the end of a line.
* `Grammar.steady_enumeration`: a list of sentences at the end of a line.
-/

namespace Discourse.Grammar

open Text (AllBlank)
open Pattern (sequence few group)

variable {p : Pattern} {cs rest : List Char} {c : Char}

/-! ## What is said at the end -/

/-- What a text comes to does not depend on the blanks around it, and it is nothing only if no
character of the text counts. -/
structure Loose {α : Type} (norm : String → α) : Prop where
  around : ∀ {before after : List Char} (cs : List Char), AllBlank before → AllBlank after →
    norm (String.ofList (before ++ (cs ++ after))) = norm (String.ofList cs)
  mute : ∀ {cs : List Char}, norm (String.ofList cs) = norm "" → Mute cs

theorem loose_trim : Loose fun s => Text.ofString (Text.trim s) where
  around _ hbefore hafter := by
    simp only [Text.trim, String.toList_ofList, Text.stripChars_around hbefore hafter]
  mute h := by
    rw [Text.ofString_inj, Text.trim, Text.trim, String.toList_ofList, String.ofList_inj] at h
    exact mute_of_allBlank (Text.stripChars_eq_nil_iff.mp h)

theorem loose_sentenceOf : Loose sentenceOf where
  around _ hbefore hafter := by
    have hblank : ∀ {cs : List Char}, AllBlank cs → AllBlank (cs.filter (· != '"')) :=
      fun h c hc => h c (List.mem_of_mem_filter hc)
    simp only [sentenceOf, removeQuotes, Text.trim, String.toList_ofList, List.filter_append,
      Text.stripChars_around (hblank hbefore) (hblank hafter)]
  mute {cs} h := by
    simp only [sentenceOf, removeQuotes, Text.ofString_inj, Text.trim, String.toList_ofList,
      String.ofList_inj] at h
    have hstripped := Text.stripChars_eq_nil_iff.mp h
    intro c hc
    by_cases hquote : c = '"'
    · rw [hquote]
      decide
    · exact isMute_of_isBlank (hstripped c (List.mem_filter.mpr ⟨hc, by simpa using hquote⟩))

/-- What the end of a form keeps, by what it comes to. -/
def said {α : Type} (tail : List Pattern) (norm : String → α) (cs : List Char) : Option α :=
  ((sequence tail).fits? cs).map fun kept => norm (kept.headD "")

/-- The end of a form keeps one part, which a blank more does not change, but that it may come to
nothing where nothing was read; and where it comes to nothing no character counts. -/
structure Steady {α : Type} (tail : List Pattern) (norm : String → α) : Prop where
  single : ∀ {cs kept}, (sequence tail).fits? cs = some kept → ∃ a, kept = [a]
  concat : ∀ {c}, Text.isBlank c = true → ∀ cs, said tail norm (cs ++ [c]) = said tail norm cs ∨
    said tail norm (cs ++ [c]) = some (norm "")
  mute : ∀ {cs}, said tail norm cs = some (norm "") → Mute cs

/-! ### A sentence -/

/-- Anything up to a period, kept. -/
def utterance (eager : Bool) : Pattern :=
  group (.seq (.one (.noneOf ['.'])) (.many (.noneOf ['.']) eager))

theorem mute_of_reads_sentenceEnd (h : sentenceEnd.Reads cs) : Mute cs := by
  have hend : (sequence [sentenceEnd]).Reads cs := by simpa using h
  intro c hc
  rcases forall_mem_of_reads_sentenceEnd hend c hc with hblank | rfl
  · exact isMute_of_isBlank hblank
  · decide

theorem allBlank_or_cons_of_reads_sentenceEnd (h : sentenceEnd.Reads cs) :
    AllBlank cs ∨ ∃ blanks, AllBlank blanks ∧ cs = '.' :: blanks := by
  obtain ⟨mark, rest, rfl, hmark, hrest⟩ := Pattern.reads_sequence_cons.mp h
  obtain ⟨blanks, last, rfl, hblanks, hlast⟩ := Pattern.reads_sequence_cons.mp hrest
  rw [Pattern.reads_sequence_nil.mp hlast, List.append_nil]
  rcases Pattern.reads_maybe.mp hmark with hone | rfl
  · obtain ⟨d, rfl, hd⟩ := Pattern.reads_one.mp hone
    obtain rfl : d = '.' := List.mem_singleton.mp (List.contains_iff_mem.mp hd)
    exact Or.inr ⟨blanks, reads_gap.mp hblanks, rfl⟩
  · exact Or.inl (reads_gap.mp hblanks)

section Utterance

variable {α : Type} {norm : String → α} {eager : Bool} {kept : List String}

/-- A text in parts: blanks, what is said, and the end. -/
structure Utterance (p : Pattern) (before said after cs : List Char) : Prop where
  parts : cs = before ++ (said ++ after)
  reads : p.Reads before
  nonempty : said ≠ []
  noPeriod : '.' ∉ said
  ends : sentenceEnd.Reads after

/-- What is kept of a text that is read is what is said in it. -/
theorem exists_utterance (heven : p.isEven = true) (hbare : p.kept = [])
    (h : (sequence [p, utterance eager, sentenceEnd]).fits? cs = some kept) :
    ∃ before said after, Utterance p before said after cs ∧ kept = [String.ofList said] := by
  obtain ⟨before, run, rfl, hbefore, hrun⟩ := Pattern.exists_of_fits?_seq_bare heven hbare h
  obtain ⟨said, rest, more, rfl, hsaid, hrest, rfl⟩ := Pattern.exists_of_fits?_seq_group hrun
  obtain ⟨after, nothing, rfl, hafter, hnothing⟩ :=
    Pattern.exists_of_fits?_seq_bare rfl rfl hrest
  obtain ⟨rfl, rfl⟩ : nothing = [] ∧ more = [] := by
    cases nothing with
    | nil => exact ⟨rfl, (Option.some.inj hnothing).symm⟩
    | cons c nothing => cases hnothing
  obtain ⟨hne, hhas⟩ := Pattern.reads_one_many.mp hsaid
  refine ⟨before, said, after, ⟨by rw [List.append_nil], hbefore, hne, fun hmem => ?_, hafter⟩, rfl⟩
  exact absurd (hhas '.' hmem) (by decide)

theorem Utterance.isRead {before said after : List Char} (h : Utterance p before said after cs) :
    (sequence [p, utterance eager, sentenceEnd]).Reads cs := by
  have hsaid : (utterance eager).Reads said :=
    Pattern.reads_group.mpr (Pattern.reads_one_many.mpr ⟨h.nonempty, fun c hc => by
      have hperiod : c ≠ '.' := ne_of_mem_of_not_mem hc h.noPeriod
      simp [CharClass.has, hperiod]⟩)
  exact Pattern.reads_sequence_cons.mpr ⟨before, _, h.parts, h.reads,
    Pattern.reads_sequence_cons.mpr ⟨said, after, rfl, hsaid, by simpa using h.ends⟩⟩

/-- What comes before the first period. -/
def upToPeriod (cs : List Char) : List Char := cs.takeWhile (· != '.')

theorem upToPeriod_of_not_mem (h : '.' ∉ cs) : upToPeriod cs = cs :=
  List.takeWhile_eq_self_iff.mpr fun c hc => by simpa using ne_of_mem_of_not_mem hc h

theorem upToPeriod_append_cons (h : '.' ∉ cs) : upToPeriod (cs ++ '.' :: rest) = cs := by
  have hall : ∀ c ∈ cs, (c != '.') = true := fun c hc => by simpa using ne_of_mem_of_not_mem hc h
  rw [upToPeriod, List.takeWhile_append_of_pos hall, List.takeWhile_cons_of_neg (by simp),
    List.append_nil]

theorem upToPeriod_concat (cs : List Char) (c : Char) :
    upToPeriod (cs ++ [c]) = upToPeriod cs ∨ upToPeriod (cs ++ [c]) = upToPeriod cs ++ [c] := by
  by_cases hmem : '.' ∈ cs
  · obtain ⟨first, second, rfl, hfirst⟩ := List.eq_append_cons_of_mem hmem
    rw [List.append_assoc, List.cons_append, upToPeriod_append_cons hfirst,
      upToPeriod_append_cons hfirst]
    exact Or.inl rfl
  · rw [upToPeriod_of_not_mem hmem, upToPeriod, List.takeWhile_append_of_pos fun d hd => by
      simpa using ne_of_mem_of_not_mem hd hmem]
    cases hc : c != '.' <;> simp [hc]

variable {before said after : List Char}

theorem not_period_of_allBlank (h : AllBlank cs) : '.' ∉ cs := h.not_mem (by decide)

/-- Only what comes before the first period counts. -/
theorem Utterance.norm_eq (hnorm : Loose norm) (hp : ∀ {run}, p.Reads run → AllBlank run)
    (h : Utterance p before said after cs) :
    norm (String.ofList said) = norm (String.ofList (upToPeriod cs)) := by
  have hbefore := hp h.reads
  rw [h.parts]
  rcases allBlank_or_cons_of_reads_sentenceEnd h.ends with hafter | ⟨blanks, -, rfl⟩
  · have hnone : '.' ∉ before ++ (said ++ after) := by
      simp [not_period_of_allBlank hbefore, not_period_of_allBlank hafter, h.noPeriod]
    rw [upToPeriod_of_not_mem hnone, hnorm.around said hbefore hafter]
  · have hnone : '.' ∉ before ++ said := by simp [not_period_of_allBlank hbefore, h.noPeriod]
    have haround := hnorm.around said hbefore Text.allBlank_nil
    rw [List.append_nil] at haround
    rw [← List.append_assoc, upToPeriod_append_cons hnone, haround]

/-- With a blank more there is an utterance as before, or there were only blanks. -/
theorem Utterance.of_concat (hp : ∀ {run}, p.Reads run → AllBlank run)
    (hc : Text.isBlank c = true) (h : Utterance p before said after (cs ++ [c])) :
    (∃ said after, Utterance p before said after cs) ∨ AllBlank cs := by
  have hparts := h.parts
  rcases List.eq_nil_or_concat after with rfl | ⟨after, d, rfl⟩
  · obtain ⟨said, d, rfl⟩ := (List.eq_nil_or_concat said).resolve_left h.nonempty
    rw [List.concat_eq_append, List.append_nil, ← List.append_assoc] at hparts
    obtain ⟨rfl, -⟩ := List.append_inj' hparts rfl
    by_cases hnil : said = []
    · rw [hnil, List.append_nil]
      exact Or.inr (hp h.reads)
    · have hperiod : '.' ∉ said := fun hmem => h.noPeriod (by simp [hmem])
      exact Or.inl ⟨said, [], by simp, h.reads, hnil, hperiod, h.ends⟩
  · rw [List.concat_eq_append, ← List.append_assoc, ← List.append_assoc] at hparts
    obtain ⟨rfl, hd⟩ := List.append_inj' hparts rfl
    obtain rfl := (List.cons.inj hd).1
    have hends := h.ends
    rw [List.concat_eq_append] at hends
    exact Or.inl ⟨said, after, by simp, h.reads, h.nonempty, h.noPeriod,
      trails_sentenceEnd.sheds c hc after hends⟩

/-- A blank more belongs to the end. -/
theorem Utterance.concat (hc : Text.isBlank c = true) (h : Utterance p before said after cs) :
    Utterance p before said (after ++ [c]) (cs ++ [c]) where
  parts := by rw [h.parts, List.append_assoc, List.append_assoc]
  reads := h.reads
  nonempty := h.nonempty
  noPeriod := h.noPeriod
  ends := (trails_sentenceEnd c hc after).mpr h.ends

theorem exists_utterance_of_reads (heven : p.isEven = true) (hbare : p.kept = [])
    (h : (sequence [p, utterance eager, sentenceEnd]).Reads cs) :
    ∃ before said after, Utterance p before said after cs := by
  obtain ⟨kept, hkept⟩ := Pattern.exists_fits?_of_reads h
  obtain ⟨before, said, after, hparts, -⟩ := exists_utterance heven hbare hkept
  exact ⟨before, said, after, hparts⟩

theorem said_utterance (heven : p.isEven = true) (hbare : p.kept = [])
    (hp : ∀ {run}, p.Reads run → AllBlank run) (hnorm : Loose norm)
    (h : (sequence [p, utterance eager, sentenceEnd]).Reads cs) :
    Grammar.said [p, utterance eager, sentenceEnd] norm cs =
      some (norm (String.ofList (upToPeriod cs))) := by
  obtain ⟨kept, hkept⟩ := Pattern.exists_fits?_of_reads h
  obtain ⟨before, said, after, hparts, rfl⟩ := exists_utterance heven hbare hkept
  rw [Grammar.said, hkept, ← hparts.norm_eq hnorm hp]
  rfl

/-- The end of a form that keeps anything up to a period. -/
theorem steady_utterance (heven : p.isEven = true) (hbare : p.kept = [])
    (hp : ∀ {run}, p.Reads run → AllBlank run) (hnorm : Loose norm) :
    Steady [p, utterance eager, sentenceEnd] norm where
  single h := by
    obtain ⟨_, said, _, -, rfl⟩ := exists_utterance heven hbare h
    exact ⟨_, rfl⟩
  concat {c} hc cs := by
    have hblank : AllBlank [c] := by simpa [AllBlank] using hc
    by_cases hmore : (sequence [p, utterance eager, sentenceEnd]).Reads (cs ++ [c])
    · obtain ⟨before, said, after, hparts⟩ := exists_utterance_of_reads heven hbare hmore
      rw [said_utterance heven hbare hp hnorm hmore]
      rcases hparts.of_concat hp hc with ⟨said, after, hless⟩ | hblanks
      · -- The blank comes after the period or at the end of what is said.
        rw [said_utterance heven hbare hp hnorm hless.isRead]
        rcases upToPeriod_concat cs c with he | he
        · rw [he]
          exact Or.inl rfl
        · rw [he, ← List.nil_append (_ ++ [c]), hnorm.around _ Text.allBlank_nil hblank]
          exact Or.inl rfl
      · -- There were only blanks, so that nothing was read.
        have hall := hblanks.append hblank
        have haround := hnorm.around [] hall Text.allBlank_nil
        rw [List.append_nil, List.append_nil] at haround
        rw [upToPeriod_of_not_mem (not_period_of_allBlank hall), haround]
        exact Or.inr rfl
    · have hless : ¬ (sequence [p, utterance eager, sentenceEnd]).Reads cs := fun hreads => by
        obtain ⟨before, said, after, hparts⟩ := exists_utterance_of_reads heven hbare hreads
        exact hmore (hparts.concat hc).isRead
      rw [Grammar.said, Grammar.said, Pattern.fits?_eq_none_iff.mpr hmore,
        Pattern.fits?_eq_none_iff.mpr hless]
      exact Or.inl rfl
  mute {cs} h := by
    obtain ⟨kept, hkept, hnil⟩ := Option.map_eq_some_iff.mp h
    obtain ⟨before, said, after, hparts, rfl⟩ := exists_utterance heven hbare hkept
    rw [hparts.parts]
    exact (mute_of_allBlank (hp hparts.reads)).append
      ((hnorm.mute hnil).append (mute_of_reads_sentenceEnd hparts.ends))

end Utterance

/-! ### A list of sentences -/

/-- What may come before a list: blanks and a bracket. -/
def opening : List Pattern := [space, optionalMark ['[', '{'], gap]

/-- What may come after a list: blanks, a bracket and a period. -/
def closing : List Pattern := [gap, optionalMark [']', '}'], gap, sentenceEnd]

/-- The list, and what may come after it. -/
def listing : Pattern := sequence (group (few (.noneOf [']', '}'])) :: closing)

theorem fits?_enumeration (cs : List Char) :
    (sequence [space, sentences, gap, sentenceEnd]).fits? cs =
      (Pattern.seq (sequence opening) listing).fits? cs := by
  have hlist : (sequence [space, sentences, gap, sentenceEnd]).fits? cs =
      (sequence (opening ++ group (few (.noneOf [']', '}'])) :: closing)).fits? cs :=
    Pattern.fits?_seq_congr fun _ => Pattern.fits?_sequence_sequence
  exact hlist.trans (Pattern.fits?_sequence_append ..)

theorem mute_of_reads_optionalMark {marks : List Char} (hmarks : marks.all isMute = true)
    (h : (optionalMark marks).Reads cs) : Mute cs := by
  rcases Pattern.reads_maybe.mp h with hone | rfl
  · obtain ⟨c, rfl, hc⟩ := Pattern.reads_one.mp hone
    exact List.forall_mem_singleton.mpr
      (List.all_eq_true.mp hmarks c (List.contains_iff_mem.mp hc))
  · exact List.forall_mem_nil _

theorem mute_of_reads_opening (h : (sequence opening).Reads cs) : Mute cs := by
  obtain ⟨blanks, run, rfl, hblanks, h⟩ := Pattern.reads_sequence_cons.mp h
  obtain ⟨mark, run, rfl, hmark, h⟩ := Pattern.reads_sequence_cons.mp h
  obtain ⟨inner, run, rfl, hinner, h⟩ := Pattern.reads_sequence_cons.mp h
  rw [Pattern.reads_sequence_nil.mp h, List.append_nil]
  exact (mute_of_allBlank (reads_space.mp hblanks).2).append
    ((mute_of_reads_optionalMark (by decide) hmark).append (mute_of_allBlank (reads_gap.mp hinner)))

theorem mute_of_reads_closing (h : (sequence closing).Reads cs) : Mute cs := by
  obtain ⟨blanks, run, rfl, hblanks, h⟩ := Pattern.reads_sequence_cons.mp h
  obtain ⟨mark, run, rfl, hmark, h⟩ := Pattern.reads_sequence_cons.mp h
  obtain ⟨outer, run, rfl, houter, h⟩ := Pattern.reads_sequence_cons.mp h
  obtain ⟨last, run, rfl, hlast, h⟩ := Pattern.reads_sequence_cons.mp h
  rw [Pattern.reads_sequence_nil.mp h, List.append_nil]
  exact (mute_of_allBlank (reads_gap.mp hblanks)).append
    ((mute_of_reads_optionalMark (by decide) hmark).append
      ((mute_of_allBlank (reads_gap.mp houter)).append (mute_of_reads_sentenceEnd hlast)))

theorem trails_closing : Trails (sequence closing) :=
  trails_sequence_cons trails_gap.sheds
    (trails_sequence_cons (sheds_optionalMark (by decide))
      (trails_sequence_cons trails_gap.sheds (trails_sequence_singleton trails_sentenceEnd)))

theorem reads_closing_nil : (sequence closing).Reads [] := by
  simp [closing, optionalMark, sentenceEnd, reads_gap]

/-- A blank after something is no part of a list. -/
theorem fits?_listing_concat (hc : Text.isBlank c = true) (hne : cs ≠ []) :
    listing.fits? (cs ++ [c]) = listing.fits? cs :=
  Pattern.fits?_seq_group_few_concat hne (trails_closing.fits?_concat rfl rfl hc) reads_closing_nil

theorem has_noneOf_of_isBlank {marks : List Char} (hmarks : marks.all (!Text.isBlank ·) = true)
    (hc : Text.isBlank c = true) : (CharClass.noneOf marks).has c = true := by
  rw [CharClass.has, Bool.not_eq_true']
  refine Bool.eq_false_iff.mpr fun hmem => ?_
  have hnot := List.all_eq_true.mp hmarks c (List.contains_iff_mem.mp hmem)
  rw [hc] at hnot
  cases hnot

/-- A blank after nothing is the list. -/
theorem fits?_listing_blank (hc : Text.isBlank c = true) :
    listing.fits? [c] = some [String.ofList [c]] := by
  have hnil : (sequence closing).fits? [] = some [] := by rfl
  have hrun : ∀ d ∈ [c], (CharClass.noneOf [']', '}']).has d = true := by
    simpa using has_noneOf_of_isBlank (by decide) hc
  have hearlier : ∀ first second, [c] = first ++ second → first ≠ [] → second ≠ [] →
      ¬ (sequence closing).Reads (second ++ []) := by
    intro first second hsplit hfirst hsecond
    rcases List.append_eq_singleton_iff.mp hsplit.symm with ⟨hnil, -⟩ | ⟨-, hnil⟩
    · exact absurd hnil hfirst
    · exact absurd hnil hsecond
  exact Pattern.fits?_seq_group_few (List.cons_ne_nil c []) hrun hearlier hnil

theorem sentencesOf_of_allBlank (h : AllBlank cs) :
    sentencesOf (String.ofList cs) = [Text.ofString ""] := by
  have hmarks : ∀ c ∈ cs, isListMark c = false := fun c hc =>
    Spelling.not_isListMark_of_blank (h c hc)
  rw [sentencesOf, String.toList_ofList, Text.splitWhere_of_none hmarks, List.map_singleton,
    Text.stripChars_eq_nil_iff.mpr h]

theorem eq_of_splitWhere_eq_singleton {cut : Char → Bool} {piece : List Char}
    (h : Text.splitWhere cut cs = [piece]) : piece = cs := by
  induction cs generalizing piece with
  | nil => exact (List.cons.inj h).1.symm
  | cons c cs ih =>
    rw [Text.splitWhere] at h
    split at h
    · exact absurd (List.cons.inj h).2 (Text.splitWhere_ne_nil cut cs)
    · split at h
      next hnil => exact absurd hnil (Text.splitWhere_ne_nil cut cs)
      next first others hsplit =>
        obtain ⟨rfl, rfl⟩ := List.cons.inj h
        rw [ih hsplit]

theorem allBlank_of_sentencesOf (h : sentencesOf (String.ofList cs) = [Text.ofString ""]) :
    AllBlank cs := by
  rw [sentencesOf, String.toList_ofList, List.map_eq_singleton_iff] at h
  obtain ⟨piece, hpiece, hempty⟩ := h
  rw [eq_of_splitWhere_eq_singleton hpiece] at hempty
  have hstrip : String.ofList (Text.stripChars Text.isBlank cs) = "" :=
    Text.ofString_inj.mp hempty
  exact Text.stripChars_eq_nil_iff.mp (String.ofList_inj.mp hstrip)

theorem exists_of_fits?_enumeration {kept : List String}
    (h : (sequence [space, sentences, gap, sentenceEnd]).fits? cs = some kept) :
    ∃ before list after, cs = before ++ (list ++ after) ∧ Mute before ∧ Mute after ∧
      kept = [String.ofList list] := by
  rw [fits?_enumeration] at h
  obtain ⟨before, run, rfl, hbefore, hrun⟩ := Pattern.exists_of_fits?_seq_bare rfl rfl h
  obtain ⟨list, after, more, rfl, -, hafter, rfl⟩ := Pattern.exists_of_fits?_seq_group hrun
  have hreads : (sequence closing).Reads after := Pattern.reads_of_fits? hafter
  have hnil : (sequence closing).fits? after = some [] :=
    fits?_eq_of_reads_iff rfl rfl (iff_of_true hreads reads_closing_nil)
  obtain rfl : [] = more := Option.some.inj (hnil.symm.trans hafter)
  exact ⟨before, list, after, rfl, mute_of_reads_opening hbefore, mute_of_reads_closing hreads, rfl⟩

theorem findSome?_eq_or {α β : Type} {f g : β → Option α} {P : α → Prop} {l : List β}
    (h : ∀ b ∈ l, g b = f b ∨ ∃ a, g b = some a ∧ P a) :
    l.findSome? g = l.findSome? f ∨ ∃ a, l.findSome? g = some a ∧ P a := by
  induction l with
  | nil => exact Or.inl rfl
  | cons b l ih =>
    obtain ⟨hb, hl⟩ := List.forall_mem_cons.mp h
    rw [List.findSome?_cons, List.findSome?_cons]
    rcases hb with hb | ⟨a, ha, hP⟩
    · rw [hb]
      cases f b with
      | none => exact ih hl
      | some a => exact Or.inl rfl
    · rw [ha]
      exact Or.inr ⟨a, rfl, hP⟩

/-- The end of a form that keeps a list. -/
theorem steady_enumeration : Steady [space, sentences, gap, sentenceEnd] sentencesOf where
  single h := by
    obtain ⟨_, list, _, -, -, -, rfl⟩ := exists_of_fits?_enumeration h
    exact ⟨_, rfl⟩
  concat {c} hc cs := by
    have hend : (sequence opening).Reads (cs ++ [c]) → ¬ listing.Reads [] := fun _ =>
      not_reads_nil rfl
    have hsteps : ∀ r ∈ (sequence opening).readings cs,
        (listing.fits? (r.2 ++ [c])).map (Pattern.wordsOf r ++ ·) =
          (listing.fits? r.2).map (Pattern.wordsOf r ++ ·) ∨
        ∃ kept, (listing.fits? (r.2 ++ [c])).map (Pattern.wordsOf r ++ ·) = some kept ∧
          kept = [String.ofList [c]] := by
      intro r hr
      have hbare : Pattern.wordsOf r = [] :=
        List.length_eq_zero_iff.mp (Pattern.length_wordsOf rfl hr)
      by_cases hnil : r.2 = []
      · rw [hnil, hbare, List.nil_append, fits?_listing_blank hc]
        exact Or.inr ⟨_, rfl, rfl⟩
      · rw [fits?_listing_concat hc hnil]
        exact Or.inl rfl
    simp only [said, fits?_enumeration, Pattern.fits?_seq_concat hend, Pattern.fits?_seq]
    rcases findSome?_eq_or hsteps with he | ⟨kept, he, rfl⟩
    · rw [he]
      exact Or.inl rfl
    · rw [he]
      exact Or.inr (congrArg some (sentencesOf_of_allBlank (by simpa [AllBlank] using hc)))
  mute {cs} h := by
    obtain ⟨kept, hkept, hnil⟩ := Option.map_eq_some_iff.mp h
    obtain ⟨before, list, after, rfl, hbefore, hafter, rfl⟩ := exists_of_fits?_enumeration hkept
    exact hbefore.append ((mute_of_allBlank (allBlank_of_sentencesOf hnil)).append hafter)

end Discourse.Grammar
