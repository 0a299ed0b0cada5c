import Discourse.Text.Numeral

/-!
# Hexadecimal digits

Numbers written in hexadecimal digits.

* `hexDigits`: the last digits of a number.
* `length_hexDigits`: a number is written with as many digits as asked for.
* `hexNumber?`: the number of a run of digits of either case.
* `readHexNumeral?`: a numeral as a person types it, white space around it, a plus sign, a leading
  `0x`, and single low lines between digits.
-/

namespace Discourse.Text

/-- The lower-case hexadecimal digit of `n`, for `n` below 16. -/
def hexDigit (n : Nat) : Char := if n < 10 then Char.ofNat (48 + n) else Char.ofNat (87 + n)

/-- The last `width` hexadecimal digits of `n`. -/
def hexDigits : Nat → Nat → List Char
  | 0, _ => []
  | width + 1, n => hexDigits width (n / 16) ++ [hexDigit (n % 16)]

theorem length_hexDigits (width n : Nat) : (hexDigits width n).length = width := by
  induction width generalizing n with
  | zero => rfl
  | succ width ih => simp [hexDigits, ih]

/-- The value of a hexadecimal digit of either case. -/
def hexValue? (c : Char) : Option Nat :=
  if '0' ≤ c ∧ c ≤ '9' then some (c.toNat - 48)
  else if 'a' ≤ c ∧ c ≤ 'f' then some (c.toNat - 87)
  else if 'A' ≤ c ∧ c ≤ 'F' then some (c.toNat - 55)
  else none

/-- The number written by hexadecimal digits, none when a character is not one. -/
def hexNumber? (cs : List Char) : Option Nat :=
  cs.foldlM (fun n c => (hexValue? c).map (16 * n + ·)) 0

/-! ## Numerals -/

/-- A decimal digit of any script as the ASCII digit; any other character as it is. -/
def plainDigit (c : Char) : Char := ((decimalValue? c).map hexDigit).getD c

/-- What follows `0x` and a low line after it, or everything. -/
def dropHexMark : List Char → List Char
  | '0' :: x :: cs =>
    if x == 'x' || x == 'X' then (if cs.head? == some '_' then cs.drop 1 else cs)
    else '0' :: x :: cs
  | cs => cs

/-- A number as a person types it in hexadecimal digits. -/
def readHexNumeral? (cs : List Char) : Option Nat :=
  let body := stripChars isSpace cs
  let unsigned := if body.head? == some '+' then body.drop 1 else body
  (joinDigitGroups? (dropHexMark (unsigned.map plainDigit))).bind hexNumber?

end Discourse.Text
