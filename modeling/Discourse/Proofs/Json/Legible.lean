import Discourse.Json.Token
import Discourse.Proofs.Text.Hexadecimal
import Discourse.Proofs.Text.Numeral
import Mathlib.Data.List.Basic
import Mathlib.Data.List.TakeDrop
import Mathlib.Data.List.TakeWhile

/-!
# Values whose text can be read back

Texts that consist of characters, integers that are not too long, truth values, null, and lists
and objects of these, no two fields of which have one name.

* `Json.IsLegible`: these values.
* `Json.Spells`: the characters of a word that means a value.
* `spells_integer`: an integer is written as a word that means it.
-/

namespace Discourse.Json

/-- The values whose text can be read back. -/
inductive IsLegible : Json → Prop where
  | null : IsLegible null
  | bool (b : Bool) : IsLegible (bool b)
  | integer {n : Int} : n.natAbs < 10 ^ Text.maxDigits → IsLegible (integer n)
  | text {t : Text} : t.isWhole = true → IsLegible (text t)
  | list {items : List Json} : (∀ v ∈ items, IsLegible v) → IsLegible (list items)
  | object {fields : List (Text × Json)} : (∀ f ∈ fields, f.1.isWhole = true) →
      (fields.map Prod.fst).Nodup → (∀ f ∈ fields, IsLegible f.2) → IsLegible (object fields)

theorem isLegible_listMap {α : Type} {f : α → Json} {as : List α}
    (h : ∀ a ∈ as, (f a).IsLegible) : (list (as.map f)).IsLegible := by
  refine .list fun x hx => ?_
  obtain ⟨a, ha, rfl⟩ := List.mem_map.mp hx
  exact h a ha

/-! ## Words -/

/-- The characters are those of one word, and it means the value. -/
structure Spells (cs : List Char) (v : Json) : Prop where
  ne_nil : cs ≠ []
  /-- No character ends the word. -/
  inside : ∀ c ∈ cs, endsWord c = false
  means : readWord? cs = some v

theorem spells_null : Spells (writePlain .null) .null :=
  ⟨by decide, List.forall_iff_forall_mem.mp (by decide), rfl⟩

theorem spells_bool (b : Bool) : Spells (writePlain (.bool b)) (.bool b) := by
  cases b
  · exact ⟨by decide, List.forall_iff_forall_mem.mp (by decide), rfl⟩
  · exact ⟨by decide, List.forall_iff_forall_mem.mp (by decide), rfl⟩

/-! ## Integers -/

theorem ne_of_isDigit {c d : Char} (h : c.isDigit = true) (hd : d.isDigit = false) : c ≠ d := by
  rintro rfl
  rw [h] at hd
  cases hd

theorem endsWord_of_isDigit {c : Char} (h : c.isDigit = true) : endsWord c = false := by
  have hne : ∀ d : Char, d.isDigit = false → c ≠ d := fun _ => ne_of_isDigit h
  have hmark : mark? c = none := by
    unfold mark?
    split <;> first | exact absurd rfl (hne _ rfl) | rfl
  simp [endsWord, isTokenSpace, hmark, hne ' ' rfl, hne '\t' rfl, hne '\n' rfl, hne '\r' rfl,
    hne '"' rfl]

theorem spanDigits_of_all {cs : List Char} (h : ∀ c ∈ cs, c.isDigit = true) :
    spanDigits cs = (cs, []) := by
  rw [spanDigits, List.span_eq_takeWhile_dropWhile, List.takeWhile_eq_self_iff.mpr h,
    List.dropWhile_eq_nil_iff.mpr h]

/-- Only one digit may be a zero that stands first. -/
theorem not_padded (n : Nat) : ((Nat.toDigits 10 n).length > 1 &&
    (Nat.toDigits 10 n).head? == some '0') = false := by
  rw [Bool.and_eq_false_iff, decide_eq_false_iff_not, beq_eq_false_iff_ne]
  by_cases hh : (Nat.toDigits 10 n).head? = some '0'
  · left
    rw [Text.length_toDigits_of_head?_eq_zero hh]
    decide
  · right
    exact hh

theorem readUnsigned?_toDigits (negative : Bool) {n : Nat} (h : n < 10 ^ Text.maxDigits) :
    readUnsigned? negative (Nat.toDigits 10 n) = some (.integer (Text.withSign negative n)) := by
  have hempty : (Nat.toDigits 10 n).isEmpty = false :=
    List.isEmpty_eq_false_iff.mpr Nat.toDigits_ne_nil
  rw [readUnsigned?, spanDigits_of_all (Text.isDigit_toDigits n)]
  simp only [hempty, not_padded, Bool.or_self, Bool.false_eq_true, if_false,
    Text.readDigits_toDigits h]

/-- The words of letters do not begin with a digit. -/
theorem readWord?_of_isDigit {d : Char} {ds : List Char} (h : d.isDigit = true) :
    readWord? (d :: ds) = readUnsigned? false (d :: ds) := by
  have hne : ∀ c : Char, c.isDigit = false → d ≠ c := fun _ => ne_of_isDigit h
  have hminus : ∀ cs : List Char, d :: ds ≠ '-' :: cs := by
    intro cs he
    exact hne '-' rfl (List.cons.inj he).1
  rw [readWord?]
  · simp [hne 'n' rfl, hne 't' rfl, hne 'f' rfl, hne 'N' rfl, hne 'I' rfl, hne '-' rfl]
  · exact hminus

/-- Of the words of letters only one begins with a minus sign, and a letter follows it. -/
theorem readWord?_minus {d : Char} {ds : List Char} (h : d.isDigit = true) :
    readWord? ('-' :: d :: ds) = readUnsigned? true (d :: ds) := by
  have hI : d ≠ 'I' := ne_of_isDigit h rfl
  rw [readWord?]
  simp [hI]

theorem toList_ofNat (m : Nat) : (toString (Int.ofNat m)).toList = Nat.toDigits 10 m :=
  Nat.toList_repr

theorem toList_negSucc (m : Nat) :
    (toString (Int.negSucc m)).toList = '-' :: Nat.toDigits 10 (m + 1) := by
  have h : toString (Int.negSucc m) = "-" ++ (m + 1).repr := rfl
  rw [h, String.toList_append, Nat.toList_repr]
  rfl

theorem readWord?_toDigits {n : Nat} (h : n < 10 ^ Text.maxDigits) :
    readWord? (Nat.toDigits 10 n) = some (.integer n) ∧
      readWord? ('-' :: Nat.toDigits 10 n) = some (.integer (-n)) := by
  have hfalse := readUnsigned?_toDigits false h
  have htrue := readUnsigned?_toDigits true h
  obtain ⟨d, ds, hd⟩ := List.exists_cons_of_ne_nil (Nat.toDigits_ne_nil (n := n) (b := 10))
  have hdigit : d.isDigit = true := Text.isDigit_toDigits n d (hd ▸ List.mem_cons_self)
  rw [hd] at hfalse htrue ⊢
  exact ⟨(readWord?_of_isDigit hdigit).trans hfalse, (readWord?_minus hdigit).trans htrue⟩

/-- An integer is written as a word that means it. -/
theorem spells_integer {n : Int} (h : n.natAbs < 10 ^ Text.maxDigits) :
    Spells (writePlain (.integer n)) (.integer n) := by
  have hdigits : ∀ m : Nat, ∀ c ∈ Nat.toDigits 10 m, endsWord c = false :=
    fun m c hc => endsWord_of_isDigit (Text.isDigit_toDigits m c hc)
  cases n with
  | ofNat m =>
    rw [writePlain, toList_ofNat]
    exact ⟨Nat.toDigits_ne_nil, hdigits m, (readWord?_toDigits h).1⟩
  | negSucc m =>
    rw [writePlain, toList_negSucc]
    refine ⟨List.cons_ne_nil _ _, ?_, (readWord?_toDigits h).2⟩
    intro c hc
    rcases List.mem_cons.mp hc with rfl | hc
    · decide
    · exact hdigits (m + 1) c hc

end Discourse.Json
