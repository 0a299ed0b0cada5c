import Discourse.Command.Spelling
import Discourse.Proofs.Command.Opening
import Discourse.Proofs.Pattern.First

/-!
# Reading a spelling

A form reads a spelling piece by piece, and each piece stops where the next one begins: a name stops
at a blank, blanks stop at whatever is no blank, and a sentence stops at a period.

* `Grammar.fits?_gap`, `Grammar.fits?_space`, `Grammar.fits?_name`, `Grammar.fits?_text`,
  `Grammar.fits?_optionalMark`: one piece of a form.
* `Grammar.fits?_sentence`: a sentence at the end of a line.
-/

namespace Discourse

open Text (AllBlank Spacing Solid)
open Pattern (text sequence Stops)

/-! ## Pieces of a line -/

namespace Spelling

theorem Gap.allBlank (w : Gap) : AllBlank w.chars := w.blank

theorem Space.spacing (w : Space) : Spacing w.chars := ⟨w.nonempty, w.blank⟩

variable {s : String}

theorem toList_ne_nil (h : s ≠ "") : s.toList ≠ [] := fun hnil =>
  h (String.toList_eq_nil_iff.mp hnil)

theorem IsName.solid (h : IsName s) : Solid s.toList :=
  ⟨toList_ne_nil h.1, fun c hc => Text.isBlank_of_isWordChar (h.2 c hc)⟩

/-- Where there are no double quotes there is nothing to remove. -/
theorem filter_ne_quote {cs : List Char} (h : '"' ∉ cs) : cs.filter (· != '"') = cs :=
  List.filter_eq_self.mpr fun c hc => by simpa using ne_of_mem_of_not_mem hc h

theorem isTrimmed_of_trim_eq (h : Text.trim s = s) : Text.IsTrimmed Text.isBlank s.toList := by
  have hstrip := congrArg String.toList h
  rw [Text.trim, String.toList_ofList] at hstrip
  exact Text.isTrimmed_iff.mpr hstrip

end Spelling

namespace Grammar

variable {parts : List Pattern} {kept : List String} {blanks cs rest : List Char}

theorem stops_blank (h : Solid cs) : Stops .blank (cs ++ rest) := Pattern.stops_append h.1 h.2

theorem stops_word (h : Spacing blanks) : Stops .word (blanks ++ rest) :=
  Pattern.stops_append h.1 fun c hc => Bool.eq_false_iff.mpr fun hword =>
    Bool.eq_false_iff.mp (Text.isBlank_of_isWordChar hword) (h.2 c hc)

/-! ## One piece of a form -/

theorem fits?_gap (hblanks : AllBlank blanks) (hstops : Stops .blank rest)
    (h : (sequence parts).fits? rest = some kept) :
    (sequence (gap :: parts)).fits? (blanks ++ rest) = some kept :=
  Pattern.fits?_seq_many hblanks hstops h

theorem fits?_space (hblanks : Spacing blanks) (hstops : Stops .blank rest)
    (h : (sequence parts).fits? rest = some kept) :
    (sequence (space :: parts)).fits? (blanks ++ rest) = some kept :=
  Pattern.fits?_seq_some hblanks.1 hblanks.2 hstops h

theorem fits?_name {s : String} (hname : Spelling.IsName s) (hstops : Stops .word rest)
    (h : (sequence parts).fits? rest = some kept) :
    (sequence (name :: parts)).fits? (s.toList ++ rest) = some (s :: kept) := by
  have hword : ∀ c ∈ s.toList, CharClass.word.has c = true := hname.2
  have hfits := Pattern.fits?_seq_group_some (Spelling.toList_ne_nil hname.1) hword hstops h
  rwa [String.ofList_toList] at hfits

theorem fits?_text {s : String} (h : (sequence parts).fits? rest = some kept) :
    (sequence (text s :: parts)).fits? (s.toList ++ rest) = some kept :=
  Pattern.fits?_seq_literal h

/-- A mark that is not there. -/
theorem fits?_optionalMark_of_stops {marks : List Char} (hstops : Stops (.oneOf marks) rest)
    (h : (sequence parts).fits? rest = some kept) :
    (sequence (optionalMark marks :: parts)).fits? rest = some kept := by
  refine (Pattern.fits?_seq_maybe_of_not_reads fun hreads => ?_).trans h
  obtain ⟨first, second, rfl, hfirst, -⟩ := Pattern.reads_seq.mp hreads
  obtain ⟨c, rfl, hc⟩ := Pattern.reads_one.mp hfirst
  rw [hstops c rfl] at hc
  cases hc

/-- A mark that is there. -/
theorem fits?_optionalMark_cons {marks : List Char} {c : Char} (hc : c ∈ marks)
    (h : (sequence parts).fits? rest = some kept) :
    (sequence (optionalMark marks :: parts)).fits? (c :: rest) = some kept := by
  refine Pattern.fits?_seq_maybe ?_
  have hmark : (CharClass.oneOf marks).has c = true := List.contains_iff_mem.mpr hc
  rw [Pattern.fits?, Pattern.search, Pattern.search_one_cons hmark]
  exact h

theorem fits?_optionalMark {mark : Char} {present : Bool}
    (hstops : present = false → Stops (.oneOf [mark]) rest)
    (h : (sequence parts).fits? rest = some kept) :
    (sequence (optionalMark [mark] :: parts)).fits? (Spelling.optional mark present ++ rest) =
      some kept := by
  cases present with
  | false => exact fits?_optionalMark_of_stops (hstops rfl) h
  | true => exact fits?_optionalMark_cons (List.mem_singleton_self mark) h

/-! ## The end of a line -/

theorem fits?_sentenceEnd {present : Bool} (hblanks : AllBlank blanks) :
    (sequence [sentenceEnd]).fits? (Spelling.optional '.' present ++ blanks) = some [] := by
  rw [sentenceEnd, Pattern.fits?_sequence_sequence]
  have hgap : (sequence [gap]).fits? (blanks ++ []) = some [] :=
    fits?_gap hblanks Pattern.stops_nil rfl
  rw [List.append_nil] at hgap
  refine fits?_optionalMark (fun _ c hc => ?_) hgap
  have hblank := hblanks c (List.mem_of_mem_head? hc)
  refine Bool.eq_false_iff.mpr fun hperiod => ?_
  rw [List.mem_singleton.mp (List.contains_iff_mem.mp hperiod)] at hblank
  cases hblank

/-- What may end a line: a period and blanks. -/
theorem forall_mem_of_reads_sentenceEnd (h : (sequence [sentenceEnd]).Reads cs) :
    ∀ c ∈ cs, Text.isBlank c = true ∨ c = '.' := by
  obtain ⟨run, last, rfl, hrun, hlast⟩ := Pattern.reads_sequence_cons.mp h
  obtain ⟨mark, tail, rfl, hmark, htail⟩ := Pattern.reads_sequence_cons.mp hrun
  obtain ⟨after, tail, rfl, hafter, htail⟩ := Pattern.reads_sequence_cons.mp htail
  rw [Pattern.reads_sequence_nil.mp hlast, Pattern.reads_sequence_nil.mp htail]
  simp only [List.forall_mem_append]
  refine ⟨⟨fun c hc => Or.inr ?_, fun c hc => Or.inl (reads_gap.mp hafter c hc), by simp⟩, by simp⟩
  rcases Pattern.reads_maybe.mp hmark with hone | rfl
  · obtain ⟨d, rfl, hd⟩ := Pattern.reads_one.mp hone
    rw [List.mem_singleton.mp hc]
    exact List.mem_singleton.mp (List.contains_iff_mem.mp hd)
  · cases hc

/-- A sentence at the end of a line: without a period the blanks at the end count to it. -/
theorem fits?_sentence {present : Bool} (hne : cs ≠ []) (hcs : '.' ∉ cs)
    (hblanks : AllBlank blanks) :
    (sequence [sentence, sentenceEnd]).fits? (cs ++ (Spelling.optional '.' present ++ blanks)) =
      some [String.ofList (cs ++ if present then [] else blanks)] := by
  have hhas : ∀ run : List Char, '.' ∉ run → ∀ c ∈ run, (CharClass.noneOf ['.']).has c = true := by
    intro run hrun c hc
    have hperiod : c ≠ '.' := fun he => hrun (he ▸ hc)
    simp [CharClass.has, hperiod]
  have hnoPeriod : '.' ∉ blanks := hblanks.not_mem (by decide)
  cases present with
  | true =>
    have hend : (sequence [sentenceEnd]).fits? (Spelling.optional '.' true ++ blanks) = some [] :=
      fits?_sentenceEnd hblanks
    rw [if_pos rfl, List.append_nil]
    exact Pattern.fits?_seq_group_some hne (hhas cs hcs) (Pattern.stops_cons (by decide)) hend
  | false =>
    have hend : (sequence [sentenceEnd]).fits? (Spelling.optional '.' false ++ []) = some [] :=
      fits?_sentenceEnd Text.allBlank_nil
    have hrun : cs ++ blanks ≠ [] := by simp [hne]
    have hfits := Pattern.fits?_seq_group_some hrun (hhas _ (by simp [hcs, hnoPeriod]))
      Pattern.stops_nil hend
    rw [List.append_nil] at hfits
    exact hfits

end Grammar

end Discourse
