import Discourse.Proofs.Command.Opening
import Discourse.Proofs.Pattern.First

/-!
# How a piece of a line ends

Blanks, quotes, periods and brackets may stand around what is said and say nothing; every other
character counts. Most pieces of a form end with a character that counts, so that a blank at the end
is no part of them. Others end with blanks, or none, and to these one blank more is nothing new.

* `Grammar.isMute`: the characters that do not count.
* `Grammar.endsFirm`, `Grammar.endsFirm_of_reads`: a pattern that ends with a character that counts.
* `Grammar.rest_eq_of_endsFirm`: where the characters that count come to an end.
* `Grammar.Trails`, `Grammar.Trails.fits?_concat`: a pattern that ends with blanks, or none.
-/

namespace Discourse.Grammar

open Text (AllBlank)
open Pattern (sequence)

variable {p : Pattern} {parts : List Pattern} {cs ds rest : List Char} {c : Char}

/-! ## Characters that count -/

/-- The quote, the period and the brackets. -/
def muteMarks : List Char := ['"', '.', '[', ']', '{', '}']

/-- Whether `c` may stand around what is said and say nothing. -/
def isMute (c : Char) : Bool := Text.isBlank c || muteMarks.contains c

/-- No character counts. -/
def Mute (cs : List Char) : Prop := ∀ c ∈ cs, isMute c = true

/-- The last character counts. -/
def EndsFirm (cs : List Char) : Prop := ∀ c ∈ cs.getLast?, isMute c = false

theorem isMute_of_isBlank (h : Text.isBlank c = true) : isMute c = true := by
  rw [isMute, h, Bool.true_or]

theorem mute_of_allBlank (h : AllBlank cs) : Mute cs := fun c hc => isMute_of_isBlank (h c hc)

theorem Mute.append (h : Mute cs) (h' : Mute ds) : Mute (cs ++ ds) :=
  List.forall_mem_append.mpr ⟨h, h'⟩

theorem eq_nil_of_endsFirm (h : EndsFirm (cs ++ ds)) (hmute : Mute ds) : ds = [] := by
  by_contra hne
  have hlast := List.getLast?_eq_some_getLast hne
  have hfirm := h (ds.getLast hne) (by rw [List.getLast?_append, hlast]; rfl)
  rw [hmute _ (List.getLast_mem hne)] at hfirm
  cases hfirm

theorem not_endsFirm_concat (hc : Text.isBlank c = true) : ¬ EndsFirm (cs ++ [c]) := fun h =>
  List.cons_ne_nil c [] (eq_nil_of_endsFirm h (by simpa [Mute] using isMute_of_isBlank hc))

/-- Where the characters that count come to an end is seen from the text. -/
theorem rest_eq_of_endsFirm {run run' rest' : List Char} (hrun : EndsFirm run)
    (hrun' : EndsFirm run') (hrest : Mute rest) (hrest' : Mute rest')
    (h : run ++ rest = run' ++ rest') : rest = rest' := by
  rcases List.append_eq_append_iff.mp h with ⟨more, rfl, rfl⟩ | ⟨more, rfl, rfl⟩
  · have hmore : Mute more := (List.forall_mem_append.mp hrest).1
    rw [eq_nil_of_endsFirm hrun' hmore, List.nil_append]
  · have hmore : Mute more := (List.forall_mem_append.mp hrest').1
    rw [eq_nil_of_endsFirm hrun hmore, List.nil_append]

/-! ## Patterns that end with a character that counts -/

/-- Whether all characters of the class count. -/
def isFirm : CharClass → Bool
  | .word | .decimal => true
  | .oneOf cs => cs.all (!isMute ·)
  | .blank | .noneOf _ => false

theorem isMute_eq_false {kind : Char → Bool} (hkind : muteMarks.all (!kind ·) = true)
    (hc : kind c = true) (hblank : Text.isBlank c = false) : isMute c = false := by
  rw [isMute, hblank, Bool.false_or]
  refine Bool.eq_false_iff.mpr fun hmem => ?_
  have hnot := List.all_eq_true.mp hkind c (List.contains_iff_mem.mp hmem)
  rw [hc] at hnot
  cases hnot

theorem isMute_of_isFirm {cls : CharClass} (h : isFirm cls = true) (hc : cls.has c = true) :
    isMute c = false := by
  match cls, h with
  | .word, _ =>
    have hword : Text.isWordChar c = true := hc
    exact isMute_eq_false (by decide +kernel) hword (Text.isBlank_of_isWordChar hword)
  | .decimal, _ =>
    have hdecimal : Text.isDecimal c = true := hc
    have hdigit : Text.isDigit c = true := by rw [Text.isDigit, hdecimal, Bool.true_or]
    exact isMute_eq_false (by decide +kernel) hdecimal (Text.isBlank_of_isDigit hdigit)
  | .oneOf marks, h => simpa using List.all_eq_true.mp h c (List.contains_iff_mem.mp hc)

/-- Whether the pattern always reads something. -/
def advances : Pattern → Bool
  | .nothing | .many _ _ => false
  | .literal t => !t.isEmpty
  | .one _ => true
  | .seq p q => advances p || advances q
  | .either p q => advances p && advances q
  | .group p => advances p

/-- Whether the last character that the pattern reads always counts. -/
def endsFirm : Pattern → Bool
  | .nothing => true
  | .literal t => t.getLast?.all (!isMute ·)
  | .one cls | .many cls _ => isFirm cls
  | .seq p q => endsFirm q && (advances q || endsFirm p)
  | .either p q => endsFirm p && endsFirm q
  | .group p => endsFirm p

theorem not_reads_nil (h : advances p = true) : ¬ p.Reads [] := by
  induction p with
  | nothing | many => cases h
  | literal t =>
    rw [Pattern.reads_literal]
    rintro rfl
    cases h
  | one cls => simp
  | seq p q ihp ihq =>
    intro hreads
    obtain ⟨first, second, hnil, hp, hq⟩ := Pattern.reads_seq.mp hreads
    obtain ⟨rfl, rfl⟩ := List.append_eq_nil_iff.mp hnil.symm
    rw [advances, Bool.or_eq_true] at h
    exact h.elim (fun h => ihp h hp) fun h => ihq h hq
  | either p q ihp ihq =>
    rw [advances, Bool.and_eq_true] at h
    exact fun hreads => (Pattern.reads_either.mp hreads).elim (ihp h.1) (ihq h.2)
  | group p ih => exact fun hreads => ih h (Pattern.reads_group.mp hreads)

theorem endsFirm_of_reads (h : endsFirm p = true) (hreads : p.Reads cs) : EndsFirm cs := by
  induction p generalizing cs with
  | nothing =>
    rw [Pattern.reads_nothing.mp hreads]
    rintro _ ⟨⟩
  | literal t =>
    rw [Pattern.reads_literal.mp hreads]
    intro c hc
    rw [endsFirm, hc] at h
    simpa using h
  | one cls =>
    obtain ⟨c, rfl, hc⟩ := Pattern.reads_one.mp hreads
    rintro _ ⟨⟩
    exact isMute_of_isFirm h hc
  | many cls eager =>
    exact fun c hc => isMute_of_isFirm h (Pattern.reads_many.mp hreads c (List.mem_of_getLast? hc))
  | seq p q ihp ihq =>
    rw [endsFirm, Bool.and_eq_true, Bool.or_eq_true] at h
    obtain ⟨first, second, rfl, hp, hq⟩ := Pattern.reads_seq.mp hreads
    by_cases hnil : second = []
    · subst hnil
      rw [List.append_nil]
      exact ihp (h.2.resolve_left fun hq' => not_reads_nil hq' hq) hp
    · intro c hc
      rw [List.getLast?_append_of_ne_nil _ hnil] at hc
      exact ihq h.1 hq c hc
  | either p q ihp ihq =>
    rw [endsFirm, Bool.and_eq_true] at h
    exact (Pattern.reads_either.mp hreads).elim (ihp h.1) (ihq h.2)
  | group p ih => exact ih h (Pattern.reads_group.mp hreads)

/-! ## Patterns that end with blanks, or none -/

/-- What the pattern reads it also reads without a blank at the end. -/
def Sheds (p : Pattern) : Prop :=
  ∀ c, Text.isBlank c = true → ∀ cs, p.Reads (cs ++ [c]) → p.Reads cs

/-- A blank at the end makes no difference to the pattern. -/
def Trails (p : Pattern) : Prop :=
  ∀ c, Text.isBlank c = true → ∀ cs, p.Reads (cs ++ [c]) ↔ p.Reads cs

theorem Trails.sheds (h : Trails p) : Sheds p := fun c hc cs => (h c hc cs).mp

theorem trails_gap : Trails gap := by
  intro c hc cs
  rw [reads_gap, reads_gap]
  exact ⟨fun h => (List.forall_mem_append.mp h).1, fun h => h.append (by simpa [AllBlank] using hc)⟩

theorem sheds_optionalMark {marks : List Char} (h : marks.all (!Text.isBlank ·) = true) :
    Sheds (optionalMark marks) := by
  intro c hc cs hreads
  rcases Pattern.reads_maybe.mp hreads with hone | hnil
  · obtain ⟨d, hd, hmark⟩ := Pattern.reads_one.mp hone
    obtain ⟨-, rfl⟩ : cs = [] ∧ c = d := by simpa using List.append_eq_singleton_iff.mp hd
    have hnot := List.all_eq_true.mp h c (List.contains_iff_mem.mp hmark)
    rw [hc] at hnot
    cases hnot
  · simp at hnil

theorem trails_sequence_cons (hp : Sheds p) (h : Trails (sequence parts)) :
    Trails (sequence (p :: parts)) := by
  intro c hc cs
  rw [Pattern.reads_sequence_cons, Pattern.reads_sequence_cons]
  constructor
  · rintro ⟨first, second, hsplit, hfirst, hsecond⟩
    rcases List.eq_nil_or_concat second with rfl | ⟨second, d, rfl⟩
    · rw [List.append_nil] at hsplit
      exact ⟨cs, [], by simp, hp c hc cs (hsplit ▸ hfirst), hsecond⟩
    · rw [List.concat_eq_append, ← List.append_assoc] at hsplit
      obtain ⟨rfl, hd⟩ := List.append_inj' hsplit rfl
      obtain rfl := (List.cons.inj hd).1
      rw [List.concat_eq_append] at hsecond
      exact ⟨first, second, rfl, hfirst, (h c hc second).mp hsecond⟩
  · rintro ⟨first, second, rfl, hfirst, hsecond⟩
    exact ⟨first, second ++ [c], by simp, hfirst, (h c hc second).mpr hsecond⟩

theorem trails_sequence_singleton (hp : Trails p) : Trails (sequence [p]) := by
  intro c hc cs
  simp [hp c hc cs]

theorem trails_sentenceEnd : Trails sentenceEnd :=
  trails_sequence_cons (sheds_optionalMark (by decide)) (trails_sequence_singleton trails_gap)

/-- A pattern that keeps nothing. -/
theorem fits?_eq_of_reads_iff (heven : p.isEven = true) (hbare : p.kept = [])
    (h : p.Reads cs ↔ p.Reads ds) : p.fits? cs = p.fits? ds := by
  have hnone : ∀ {run kept}, p.fits? run = some kept → kept = [] := by
    intro run kept hfits
    rw [← String.toList_ofList (l := run), ← Pattern.match?_eq_fits?] at hfits
    exact List.length_eq_zero_iff.mp (by rw [Pattern.length_match? heven hfits, hbare]; rfl)
  by_cases hreads : p.Reads cs
  · obtain ⟨kept, hkept⟩ := Pattern.exists_fits?_of_reads hreads
    obtain ⟨kept', hkept'⟩ := Pattern.exists_fits?_of_reads (h.mp hreads)
    rw [hkept, hkept', hnone hkept, hnone hkept']
  · rw [Pattern.fits?_eq_none_iff.mpr hreads, Pattern.fits?_eq_none_iff.mpr fun hd =>
      hreads (h.mpr hd)]

theorem Trails.fits?_concat (h : Trails p) (heven : p.isEven = true) (hbare : p.kept = [])
    (hc : Text.isBlank c = true) (cs : List Char) : p.fits? (cs ++ [c]) = p.fits? cs :=
  fits?_eq_of_reads_iff heven hbare (h c hc cs)

end Discourse.Grammar
