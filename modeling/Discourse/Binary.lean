/-!
# Numbers of 53 binary digits

A number with a fraction or an exponent is kept as an integer times a power of two, and an integer
of at most 53 binary digits is all there is room for. Of the numbers that can be kept, the one
nearest to a given quotient is taken; of two that are equally near, the one whose integer is even.

* `Binary.nearest?`: the nearest number to a quotient. There is none when the quotient is too large.
* `Binary.ofDecimal?`: the nearest number to a decimal.
* `Binary.divide`: the nearest number to a quotient of one that can be kept.
* `Binary.floor` and `Binary.integer?`: the integer below a number, and the integer that it is.
-/

namespace Discourse

/-- The number `mantissa * 2 ^ exponent`. -/
structure Binary where
  mantissa : Int
  exponent : Int
  deriving DecidableEq, Repr, Inhabited

namespace Binary

/-! ## Values -/

/-- The power of two with the given exponent, or one if that is negative. -/
def twoTo (exponent : Int) : Nat := Nat.pow 2 exponent.toNat

/-- An integer as it is. -/
def ofInteger (n : Int) : Binary := ⟨n, 0⟩

/-- Whether two numbers are equal. -/
def same (a b : Binary) : Bool :=
  let low := min a.exponent b.exponent
  a.mantissa * twoTo (a.exponent - low) == b.mantissa * twoTo (b.exponent - low)

/-- The largest integer that is at most the number. -/
def floor (a : Binary) : Int := a.mantissa * twoTo a.exponent / twoTo (-a.exponent)

/-- The integer that the number is, if it is one. -/
def integer? (a : Binary) : Option Int :=
  if (ofInteger a.floor).same a then some a.floor else none

/-- The number with the given sign, when it has none. -/
def withSign (negative : Bool) (a : Binary) : Binary :=
  if negative then ⟨-a.mantissa, a.exponent⟩ else a

/-- The number without its sign, as a quotient of two integers. -/
def magnitude (a : Binary) : Nat × Nat :=
  (a.mantissa.natAbs * twoTo a.exponent, twoTo (-a.exponent))

/-- Whether the number without its sign is more than `n`. -/
def exceeds (a : Binary) (n : Nat) : Bool := n * a.magnitude.2 < a.magnitude.1

/-! ## Rounding -/

/-- The integer nearest to a quotient, the even one of two that are equally near. -/
def roundQuotient (num den : Nat) : Nat :=
  let q := num / den
  let r := num % den
  if 2 * r < den || (2 * r == den && q % 2 == 0) then q else q + 1

/-- The number of binary digits of an integer part. -/
def digits : Nat := 53

/-- The least exponent. -/
def leastExponent : Int := -1074

/-- Numbers are below `2 ^ bound`. -/
def bound : Nat := 1024

/-- The two parts of the quotient of `num` and `den` by `2 ^ exponent`. -/
def scale (num den : Nat) (exponent : Int) : Nat × Nat :=
  (num * twoTo (-exponent), den * twoTo exponent)

/-- The exponent with which a quotient is kept: the integer part has `digits` binary digits, or
fewer where the exponent would be too small. -/
def exponentFor (num den : Nat) : Int :=
  let low : Int := (Nat.log2 num : Int) - Nat.log2 den - digits
  let (n, d) := scale num den low
  max leastExponent (if n / d < twoTo digits then low else low + 1)

/-- The number nearest to the quotient of `num` and `den`, which is not zero; none when it is too
large. -/
def nearest? (num den : Nat) : Option Binary :=
  if num = 0 then some ⟨0, 0⟩
  else
    let e := exponentFor num den
    let (n, d) := scale num den e
    let m := roundQuotient n d
    if twoTo bound ≤ m * twoTo e then none else some ⟨m, e⟩

/-- The number nearest to the quotient of a number and a positive integer. -/
def divide (a : Binary) (n : Nat) : Binary :=
  match nearest? a.magnitude.1 (a.magnitude.2 * n) with
  | some q => q.withSign (a.mantissa < 0)
  | none => a

/-- The number nearest to the decimal that has the given digits, the first most significant, times
a power of ten; none when it is too large. A decimal with more than 310 digits before the point is
too large, and one that begins with more than 329 zeros after the point is nearest to zero. -/
def ofDecimal? (decimals : List Nat) (exponent : Int) : Option Binary :=
  let significant := decimals.dropWhile (· == 0)
  let top : Int := significant.length + exponent
  if significant.isEmpty || top < -329 then some ⟨0, 0⟩
  else if 310 < top then none
  else
    let m := significant.foldl (fun n d => 10 * n + d) 0
    nearest? (m * Nat.pow 10 exponent.toNat) (Nat.pow 10 (-exponent).toNat)

end Binary

end Discourse
