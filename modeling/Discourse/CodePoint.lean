/-!
# Code points

The numbers of which texts are made, those below 0x110000. Almost every one is the number of a
character. The 2048 others are halves of pairs: where a character beyond the first 65536 is escaped,
a high half and a low half after it stand for it together. An escape may also give a half alone. It
is a code point like any other then, with its place in the order, but it is no character.

* `CodePoint.number` and `CodePoint.ofNumber`: the number of a code point, and back.
* `ofNumber_number`, `number_ofNumber`: the two undo each other.
* `CodePoint.satisfies`: a property of characters, which no half has.
-/

namespace Discourse

/-- A character, or half a pair that stands for one. -/
inductive CodePoint where
  | char (c : Char)
  /-- The half with the given number, counted from the first half. -/
  | half (index : Fin 2048)
  deriving DecidableEq, Repr, Inhabited

namespace CodePoint

/-! ## Halves -/

/-- Whether the number is that of the first half of a pair. -/
def isHighHalf (n : Nat) : Bool := 0xD800 ≤ n && n < 0xDC00

/-- Whether the number is that of the second half of a pair. -/
def isLowHalf (n : Nat) : Bool := 0xDC00 ≤ n && n < 0xE000

/-- The number of the character that a pair stands for. -/
def joinHalves (high low : Nat) : Nat := 0x10000 + (high - 0xD800) * 0x400 + (low - 0xDC00)

/-- Whether the code point is half a pair. -/
def isHalf : CodePoint → Bool
  | char _ => false
  | half _ => true

/-! ## Numbers -/

/-- The number of a code point. -/
def number : CodePoint → Nat
  | char c => c.toNat
  | half index => 0xD800 + index.val

/-- The code point of a number. -/
def ofNumber (n : Nat) : CodePoint :=
  if h : 0xD800 ≤ n ∧ n < 0xE000 then half ⟨n - 0xD800, by omega⟩ else char (Char.ofNat n)

theorem number_ofNumber {n : Nat} (h : n < 0x110000) : (ofNumber n).number = n := by
  unfold ofNumber
  split
  · simp only [number]
    omega
  · rename_i hn
    have hv : n.isValidChar := by
      unfold Nat.isValidChar
      omega
    rw [number, Char.ofNat, dif_pos hv]
    rfl

theorem ofNumber_number (p : CodePoint) : ofNumber p.number = p := by
  cases p with
  | char c =>
    have hv : c.toNat.isValidChar := c.valid
    have hn : ¬ (0xD800 ≤ c.toNat ∧ c.toNat < 0xE000) := by
      unfold Nat.isValidChar at hv
      omega
    rw [number, ofNumber, dif_neg hn, Char.ofNat_toNat]
  | half index =>
    have hi := index.isLt
    rw [number, ofNumber, dif_pos (by omega)]
    simp

/-! ## Characters -/

/-- The character, if the code point is one. -/
def char? : CodePoint → Option Char
  | char c => some c
  | half _ => none

/-- Whether the code point is a character with the given property. -/
def satisfies (property : Char → Bool) : CodePoint → Bool
  | char c => property c
  | half _ => false

end CodePoint

end Discourse
