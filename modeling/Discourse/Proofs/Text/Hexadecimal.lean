import Discourse.Text.Hexadecimal
import Mathlib.Algebra.Group.Nat.Defs

/-!
# Reading back hexadecimal digits

* `hexValue?_hexDigit`: the value of a written digit.
* `hexNumber?_hexDigits`: the number of the last digits of a number.
-/

namespace Discourse.Text

theorem hexValue?_hexDigit_all : ∀ d, d < 16 → hexValue? (hexDigit d) = some d := by
  decide

theorem hexValue?_hexDigit {d : Nat} (h : d < 16) : hexValue? (hexDigit d) = some d :=
  hexValue?_hexDigit_all d h

theorem hexNumber?_append (cs ds : List Char) :
    hexNumber? (cs ++ ds) = (hexNumber? cs).bind fun n =>
      ds.foldlM (fun n c => (hexValue? c).map (16 * n + ·)) n := by
  rw [hexNumber?, List.foldlM_append]
  rfl

theorem hexNumber?_hexDigits (width n : Nat) :
    hexNumber? (hexDigits width n) = some (n % 16 ^ width) := by
  induction width generalizing n with
  | zero => rw [Nat.pow_zero, Nat.mod_one]; rfl
  | succ width ih =>
    have hlast : n % 16 < 16 := Nat.mod_lt n (by decide)
    have hsplit : n % 16 ^ (width + 1) = 16 * (n / 16 % 16 ^ width) + n % 16 := by
      rw [Nat.pow_succ', Nat.mod_mul, Nat.add_comm]
    rw [hexDigits, hexNumber?_append, ih, Option.bind_some, List.foldlM_cons,
      hexValue?_hexDigit hlast, hsplit]
    rfl

end Discourse.Text
