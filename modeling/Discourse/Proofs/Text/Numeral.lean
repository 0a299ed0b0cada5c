import Discourse.Text.Numeral
import Mathlib.Algebra.Group.Nat.Defs

/-!
# Reading back a numeral

A number is written with ASCII digits, without a leading zero. Each of the readers of numerals
gives the number back, as long as it has not too many digits.

* `readDigits_toDigits`: the digits of a number.
* `head?_toDigits_ne_zero`: only zero begins with a zero.
* `readInteger?_repr`: a number as a person types it.
-/

namespace Discourse.Text

/-! ## Digits -/

theorem toNat_of_isDigit {c : Char} (h : c.isDigit = true) : 48 ≤ c.toNat ∧ c.toNat ≤ 57 := by
  simp only [Char.isDigit, Bool.and_eq_true, decide_eq_true_eq] at h
  exact ⟨UInt32.le_iff_toNat_le.mp h.1, UInt32.le_iff_toNat_le.mp h.2⟩

theorem decimalValue?_of_isDigit {c : Char} (h : c.isDigit = true) :
    decimalValue? c = some (c.toNat - 48) := by
  have hc := toNat_of_isDigit h
  rw [decimalValue?, decimalZeros, List.findSome?_cons, if_pos (by omega)]

theorem isDecimal_of_isDigit {c : Char} (h : c.isDigit = true) : isDecimal c = true := by
  rw [isDecimal, decimalValue?_of_isDigit h, Option.isSome_some]

theorem filterMap_decimalValue? {cs : List Char} (h : ∀ c ∈ cs, c.isDigit = true) :
    cs.filterMap decimalValue? = cs.map fun c => c.toNat - 48 := by
  induction cs with
  | nil => rfl
  | cons c cs ih =>
    rw [List.filterMap_cons, decimalValue?_of_isDigit (h c List.mem_cons_self), List.map_cons,
      ih fun d hd => h d (List.mem_cons_of_mem c hd)]

theorem ofDecimals_map_toNat (cs : List Char) :
    ofDecimals (cs.map fun c => c.toNat - 48) = Nat.ofDigitChars 10 cs 0 := by
  rw [ofDecimals, List.foldl_map, Nat.ofDigitChars_eq_foldl]
  rfl

/-! ## The digits of a number -/

theorem isDigit_toDigits (n : Nat) : ∀ c ∈ Nat.toDigits 10 n, c.isDigit = true :=
  fun _ hc => Nat.isDigit_of_mem_toDigits (by decide) (by decide) hc

theorem readDigits_toDigits {n : Nat} (h : n < 10 ^ maxDigits) :
    readDigits (Nat.toDigits 10 n) = .ok n := by
  have hlen : (Nat.toDigits 10 n).length ≤ maxDigits :=
    (Nat.length_toDigits_le_iff (by decide) (by decide)).mpr h
  rw [readDigits, filterMap_decimalValue? (isDigit_toDigits n), List.length_map, if_pos hlen,
    ofDecimals_map_toNat, Nat.ofDigitChars_ten_toDigits]

theorem digitChar_ne_zero {n : Nat} (hn : n < 10) (h : n ≠ 0) : n.digitChar ≠ '0' := by
  intro he
  have hv := Nat.toNat_digitChar_sub_48_of_lt_ten hn
  rw [he] at hv
  exact h hv.symm

theorem head?_toDigits_ne_zero {n : Nat} (h : n ≠ 0) : (Nat.toDigits 10 n).head? ≠ some '0' := by
  induction n using Nat.strongRecOn with
  | ind n ih =>
    by_cases hn : n < 10
    · rw [Nat.toDigits_of_lt_base hn]
      simpa using digitChar_ne_zero hn h
    · have hhead := ih (n / 10) (by omega) (by omega)
      obtain ⟨d, ds, hd⟩ := List.exists_cons_of_ne_nil (Nat.toDigits_ne_nil (n := n / 10) (b := 10))
      rw [Nat.toDigits_of_base_le (by decide) (by omega), hd, List.cons_append, List.head?_cons]
      rwa [hd, List.head?_cons] at hhead

theorem length_toDigits_of_head?_eq_zero {n : Nat} (h : (Nat.toDigits 10 n).head? = some '0') :
    (Nat.toDigits 10 n).length = 1 := by
  by_cases hn : n = 0
  · rw [hn, Nat.toDigits_zero]
    rfl
  · exact absurd h (head?_toDigits_ne_zero hn)

/-! ## Numerals as a person types them -/

theorem isSpace_of_isDigit {c : Char} (h : c.isDigit = true) : isSpace c = false := by
  have hc := toNat_of_isDigit h
  simp only [isSpace, isBlank, Bool.and_eq_false_iff, Bool.or_eq_false_iff, decide_eq_false_iff_not,
    beq_eq_false_iff_ne]
  omega

theorem stripChars_of_digits {cls : Char → Bool} (hcls : ∀ c, c.isDigit = true → cls c = false)
    {cs : List Char} (h : ∀ c ∈ cs, c.isDigit = true) : stripChars cls cs = cs := by
  have hdrop : ∀ ds : List Char, (∀ c ∈ ds, c.isDigit = true) → ds.dropWhile cls = ds := by
    intro ds hds
    cases ds with
    | nil => rfl
    | cons d ds => simp [hcls d (hds d List.mem_cons_self)]
  rw [stripChars, hdrop cs h, hdrop cs.reverse (by simpa using h), List.reverse_reverse]

theorem splitWhere_of_none {cut : Char → Bool} {cs : List Char} (h : ∀ c ∈ cs, cut c = false) :
    splitWhere cut cs = [cs] := by
  induction cs with
  | nil => rfl
  | cons c cs ih =>
    rw [splitWhere, ih fun d hd => h d (List.mem_cons_of_mem c hd), h c List.mem_cons_self]
    rfl

theorem joinDigitGroups?_of_digits {cs : List Char} (h : ∀ c ∈ cs, c.isDigit = true)
    (hne : cs ≠ []) : joinDigitGroups? cs = some cs := by
  have hcut : ∀ c ∈ cs, (c == '_') = false := by
    intro c hc
    rw [beq_eq_false_iff_ne]
    rintro rfl
    cases h '_' hc
  rw [joinDigitGroups?, splitWhere_of_none hcut]
  simp [hne]

theorem splitSign_of_digits {cs : List Char} (h : ∀ c ∈ cs, c.isDigit = true) :
    splitSign cs = (false, cs) := by
  unfold splitSign
  split
  · cases h '-' List.mem_cons_self
  · cases h '+' List.mem_cons_self
  · rfl

theorem readInteger?_repr {n : Nat} (h : n < 10 ^ maxDigits) :
    readInteger? (toString n) = some (n : Int) := by
  have hdig := isDigit_toDigits n
  have hall : (Nat.toDigits 10 n).all isDecimal = true :=
    List.all_eq_true.mpr fun c hc => isDecimal_of_isDigit (hdig c hc)
  rw [readInteger?, Nat.toString_eq_repr, Nat.toList_repr,
    stripChars_of_digits (fun _ => isSpace_of_isDigit) hdig, splitSign_of_digits hdig]
  simp only [joinDigitGroups?_of_digits hdig Nat.toDigits_ne_nil, hall, readDigits_toDigits h,
    if_true, withSign, Bool.false_eq_true, if_false]

end Discourse.Text
