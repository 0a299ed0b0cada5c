import Discourse.Proofs.Text.Numeral
import Discourse.Text.WordChar
import Mathlib.Data.List.TakeWhile

/-!
# The words of a line

Blanks separate the words of a line. A line that is put together from runs of blanks and runs
without them has the words that one expects, and stripping a text gives back what the blanks stand
around.

* `Text.isBlank_of_isWordChar`, `Text.isBlank_of_isDigit`: word characters and digits.
* `Text.IsTrimmed`, `Text.stripChars_append`: what is left when the ends are cut off.
* `Text.words`: the words of a line.
* `Text.words_append_spacing`, `Text.words_solid_spacing`: the words of a line in parts.
-/

namespace Discourse.Text

/-! ## Blanks, word characters and digits -/

/-- The numbers of the blanks. -/
def blankNumbers : List Nat :=
  [9, 10, 11, 12, 13, 28, 29, 30, 31, 32, 0x85, 0xA0, 0x1680, 0x2000, 0x2001, 0x2002, 0x2003,
    0x2004, 0x2005, 0x2006, 0x2007, 0x2008, 0x2009, 0x200A, 0x2028, 0x2029, 0x202F, 0x205F, 0x3000]

theorem toNat_mem_blankNumbers {c : Char} (h : isBlank c = true) : c.toNat ∈ blankNumbers := by
  simp only [isBlank, Bool.or_eq_true, Bool.and_eq_true, decide_eq_true_eq, beq_iff_eq] at h
  simp only [blankNumbers, List.mem_cons, List.not_mem_nil, or_false]
  omega

theorem isWordChar_ofNat_blankNumbers :
    ∀ n ∈ blankNumbers, isWordChar (Char.ofNat n) = false := by
  decide +kernel

theorem isBlank_of_isWordChar {c : Char} (h : isWordChar c = true) : isBlank c = false := by
  refine Bool.eq_false_iff.mpr fun hblank => ?_
  have hnone := isWordChar_ofNat_blankNumbers c.toNat (toNat_mem_blankNumbers hblank)
  rw [Char.ofNat_toNat, h] at hnone
  cases hnone

theorem isDigit_ofNat_blankNumbers : ∀ n ∈ blankNumbers, isDigit (Char.ofNat n) = false := by
  decide +kernel

theorem isBlank_of_isDigit {c : Char} (h : isDigit c = true) : isBlank c = false := by
  refine Bool.eq_false_iff.mpr fun hblank => ?_
  have hnone := isDigit_ofNat_blankNumbers c.toNat (toNat_mem_blankNumbers hblank)
  rw [Char.ofNat_toNat, h] at hnone
  cases hnone

/-! ## Stripping -/

/-- Neither the first nor the last character is in the class. -/
def IsTrimmed (cls : Char → Bool) (cs : List Char) : Prop :=
  (∀ c ∈ cs.head?, cls c = false) ∧ ∀ c ∈ cs.getLast?, cls c = false

variable {cls : Char → Bool} {cs before after : List Char}

theorem dropWhile_append_of_head (hbefore : ∀ c ∈ before, cls c = true)
    (hcs : ∀ c ∈ cs.head?, cls c = false) : (before ++ cs).dropWhile cls = cs := by
  rw [List.dropWhile_append_of_pos hbefore]
  cases cs with
  | nil => rfl
  | cons c cs => exact List.dropWhile_cons_of_neg (by simp [hcs c rfl])

/-- What stands around a trimmed text is stripped. -/
theorem stripChars_append (hbefore : ∀ c ∈ before, cls c = true)
    (hafter : ∀ c ∈ after, cls c = true) (hcs : IsTrimmed cls cs) :
    stripChars cls (before ++ (cs ++ after)) = cs := by
  cases cs with
  | nil =>
    have hall : ∀ c ∈ before ++ after, cls c = true := List.forall_mem_append.mpr ⟨hbefore, hafter⟩
    rw [stripChars, List.nil_append, List.dropWhile_eq_nil_iff.mpr hall]
    rfl
  | cons c cs =>
    have hhead : ∀ d ∈ (c :: cs ++ after).head?, cls d = false := hcs.1
    have hlast : ∀ d ∈ (c :: cs).reverse.head?, cls d = false := by
      rw [List.head?_reverse]
      exact hcs.2
    rw [stripChars, dropWhile_append_of_head hbefore hhead, List.reverse_append,
      dropWhile_append_of_head (by simpa using hafter) hlast, List.reverse_reverse]

theorem stripChars_of_isTrimmed (hcs : IsTrimmed cls cs) : stripChars cls cs = cs := by
  have hstrip : stripChars cls ([] ++ (cs ++ [])) = cs :=
    stripChars_append (by simp) (by simp) hcs
  simpa using hstrip

theorem head?_dropWhile_eq_false : ∀ c ∈ (cs.dropWhile cls).head?, cls c = false := by
  intro c hc
  have hnot := List.head?_dropWhile_not cls cs
  rw [hc] at hnot
  exact hnot

theorem isTrimmed_stripChars (cls : Char → Bool) (cs : List Char) :
    IsTrimmed cls (stripChars cls cs) := by
  unfold IsTrimmed stripChars
  rw [List.getLast?_reverse, List.head?_reverse]
  refine ⟨fun c hc => ?_, head?_dropWhile_eq_false⟩
  -- What is dropped at the end leaves the first character in its place.
  obtain ⟨dropped, hdropped⟩ := List.dropWhile_suffix cls (l := (cs.dropWhile cls).reverse)
  have hlast : ((cs.dropWhile cls).reverse).getLast? = some c := by
    rw [← hdropped, List.getLast?_append, hc]
    rfl
  rw [List.getLast?_reverse] at hlast
  exact head?_dropWhile_eq_false c hlast

theorem isTrimmed_iff : IsTrimmed cls cs ↔ stripChars cls cs = cs :=
  ⟨stripChars_of_isTrimmed, fun h => h ▸ isTrimmed_stripChars cls cs⟩

/-- What is cut off may as well be there. -/
theorem stripChars_around (hbefore : ∀ c ∈ before, cls c = true)
    (hafter : ∀ c ∈ after, cls c = true) :
    stripChars cls (before ++ (cs ++ after)) = stripChars cls cs := by
  have hback : ∀ c ∈ after.reverse, cls c = true := fun c hc => hafter c (List.mem_reverse.mp hc)
  rw [stripChars, List.dropWhile_append_of_pos hbefore, List.dropWhile_append, stripChars]
  cases cs.dropWhile cls with
  | nil => simp [List.dropWhile_eq_nil_iff.mpr hafter]
  | cons c rest =>
    rw [if_neg (by simp), List.reverse_append, List.dropWhile_append_of_pos hback]

/-- What is cut off at the ends. -/
theorem exists_append_stripChars (cls : Char → Bool) (cs : List Char) :
    ∃ before after, (∀ c ∈ before, cls c = true) ∧ (∀ c ∈ after, cls c = true) ∧
      cs = before ++ (stripChars cls cs ++ after) := by
  have hfront : ∀ (ds : List Char), ∀ c ∈ ds.takeWhile cls, cls c = true :=
    fun ds c hc => List.mem_takeWhile_imp hc
  refine ⟨cs.takeWhile cls, ((cs.dropWhile cls).reverse.takeWhile cls).reverse, hfront cs,
    fun c hc => hfront _ c (List.mem_reverse.mp hc), ?_⟩
  rw [stripChars, ← List.reverse_append, List.takeWhile_append_dropWhile, List.reverse_reverse,
    List.takeWhile_append_dropWhile]

theorem stripChars_eq_nil_iff : stripChars cls cs = [] ↔ ∀ c ∈ cs, cls c = true := by
  constructor
  · intro h
    rw [stripChars, List.reverse_eq_nil_iff, List.dropWhile_eq_nil_iff] at h
    cases hcs : cs.dropWhile cls with
    | nil => exact List.dropWhile_eq_nil_iff.mp hcs
    | cons c rest =>
      have hfirst : ∀ d ∈ (cs.dropWhile cls).head?, cls d = false := head?_dropWhile_eq_false
      have hhead := hfirst c (by rw [hcs]; rfl)
      rw [h c (by simp [hcs])] at hhead
      cases hhead
  · intro h
    rw [stripChars, List.dropWhile_eq_nil_iff.mpr h]
    rfl

/-! ## Runs with and without blanks -/

/-- There are no characters but blanks. -/
def AllBlank (cs : List Char) : Prop := ∀ c ∈ cs, isBlank c = true

/-- There are blanks and nothing else. -/
def Spacing (cs : List Char) : Prop := cs ≠ [] ∧ AllBlank cs

/-- There are characters, none of them a blank. -/
def Solid (cs : List Char) : Prop := cs ≠ [] ∧ ∀ c ∈ cs, isBlank c = false

instance : DecidablePred AllBlank := fun cs => List.decidableBAll (isBlank · = true) cs

instance : DecidablePred Spacing := fun cs => inferInstanceAs (Decidable (cs ≠ [] ∧ AllBlank cs))

instance : DecidablePred Solid := fun cs =>
  @instDecidableAnd _ _ _ (List.decidableBAll (isBlank · = false) cs)

@[simp] theorem allBlank_nil : AllBlank [] := by rintro _ ⟨⟩

theorem AllBlank.append {first second : List Char} (h : AllBlank first) (h' : AllBlank second) :
    AllBlank (first ++ second) :=
  List.forall_mem_append.mpr ⟨h, h'⟩

theorem AllBlank.not_mem {c : Char} (h : AllBlank cs) (hc : isBlank c = false) : c ∉ cs :=
  fun hmem => by
    rw [h c hmem] at hc
    cases hc

theorem trim_eq_iff {s t : String} (ht : IsTrimmed isBlank t.toList) :
    trim s = t ↔ ∃ before after, AllBlank before ∧ AllBlank after ∧
      s.toList = before ++ (t.toList ++ after) := by
  constructor
  · rintro rfl
    rw [trim, String.toList_ofList]
    exact exists_append_stripChars isBlank s.toList
  · rintro ⟨before, after, hbefore, hafter, hs⟩
    rw [trim, hs, stripChars_append hbefore hafter ht, String.ofList_toList]

theorem Solid.append {first second : List Char} (h : Solid first) (h' : Solid second) :
    Solid (first ++ second) :=
  ⟨List.append_ne_nil_of_left_ne_nil h.1 _, List.forall_mem_append.mpr ⟨h.2, h'.2⟩⟩

/-- What has no blank in it does not begin with one. -/
theorem Solid.append_ne_cons {solid rest : List Char} {c : Char} (h : Solid solid)
    (hc : isBlank c = true) : solid ++ rest ≠ c :: cs := by
  intro he
  obtain ⟨d, more, rfl⟩ := List.exists_cons_of_ne_nil h.1
  have hd := h.2 d List.mem_cons_self
  rw [(List.cons.inj he).1, hc] at hd
  cases hd

/-! ## Words -/

/-- The words of a line: what stands between blanks. -/
def words (cs : List Char) : List (List Char) :=
  (splitWhere isBlank cs).filter fun piece => !piece.isEmpty

theorem splitWhere_append_cons {cut : Char → Bool} {c : Char} (hc : cut c = true)
    (first second : List Char) :
    splitWhere cut (first ++ c :: second) = splitWhere cut first ++ splitWhere cut second := by
  induction first with
  | nil => simp [splitWhere, hc]
  | cons d first ih =>
    rw [List.cons_append, splitWhere, splitWhere, ih]
    split
    · rfl
    · obtain ⟨piece, pieces, hpieces⟩ := List.exists_cons_of_ne_nil (splitWhere_ne_nil cut first)
      rw [hpieces]
      rfl

theorem words_append_cons {c : Char} (hc : isBlank c = true) (first second : List Char) :
    words (first ++ c :: second) = words first ++ words second := by
  rw [words, splitWhere_append_cons hc, List.filter_append]
  rfl

@[simp] theorem words_nil : words [] = [] := rfl

theorem words_blanks_append {blanks : List Char} (h : AllBlank blanks) (cs : List Char) :
    words (blanks ++ cs) = words cs := by
  induction blanks with
  | nil => rfl
  | cons c blanks ih =>
    obtain ⟨hc, hblanks⟩ := List.forall_mem_cons.mp h
    exact (words_append_cons hc [] _).trans (ih hblanks)

/-- Words do not reach over blanks. -/
theorem words_append_spacing {blanks : List Char} (h : Spacing blanks) (first second : List Char) :
    words (first ++ (blanks ++ second)) = words first ++ words second := by
  obtain ⟨hne, hblanks⟩ := h
  obtain ⟨c, blanks, rfl⟩ := List.exists_cons_of_ne_nil hne
  obtain ⟨hc, hblanks⟩ := List.forall_mem_cons.mp hblanks
  rw [List.cons_append, words_append_cons hc, words_blanks_append hblanks]

/-- The first word begins with whatever has no blank in it. -/
theorem exists_words_solid_append {solid : List Char} (h : Solid solid) (cs : List Char) :
    ∃ more rest, words (solid ++ cs) = (solid ++ more) :: rest := by
  have hsplit : ∀ run : List Char, (∀ c ∈ run, isBlank c = false) →
      ∃ more rest, splitWhere isBlank (run ++ cs) = (run ++ more) :: rest := by
    intro run hrun
    induction run with
    | nil => exact List.exists_cons_of_ne_nil (splitWhere_ne_nil isBlank cs)
    | cons c run ih =>
      obtain ⟨hc, hrun⟩ := List.forall_mem_cons.mp hrun
      obtain ⟨more, rest, he⟩ := ih hrun
      exact ⟨more, rest, by simp [splitWhere, hc, he]⟩
  obtain ⟨more, rest, he⟩ := hsplit solid h.2
  exact ⟨more, rest.filter fun piece => !piece.isEmpty, by simp [words, he, h.1]⟩

theorem words_of_solid {solid : List Char} (h : Solid solid) : words solid = [solid] := by
  rw [words, splitWhere_of_none h.2]
  simp [h.1]

/-- A word that blanks come after. -/
theorem words_solid_spacing {solid blanks : List Char} (h : Solid solid) (hblanks : Spacing blanks)
    (cs : List Char) : words (solid ++ (blanks ++ cs)) = solid :: words cs := by
  rw [words_append_spacing hblanks, words_of_solid h, List.singleton_append]

/-- A word at the end of a line. -/
theorem words_solid_blanks {solid blanks : List Char} (h : Solid solid)
    (hblanks : AllBlank blanks) : words (solid ++ blanks) = [solid] := by
  by_cases hne : blanks = []
  · rw [hne, List.append_nil, words_of_solid h]
  · simpa using words_solid_spacing h ⟨hne, hblanks⟩ []

end Discourse.Text
