import Discourse.Text.Blank
import Discourse.Text.Digit
import Discourse.Text.Split

/-!
# Numerals

Whole numbers written in decimal digits. A numeral has at most `maxDigits` digits; a longer one is
refused before its value is computed.

* `readDigits`: a run of decimal digits of any script.
* `readInteger?`: a numeral as a person types it, white space around it, a sign, and single low
  lines between digits.
* `readExponent?`: the exponent at the end of a number.
* `readPlainInteger`: a numeral as it stands in a setting or a record, in ASCII digits, where
  leading zeros do not count and a fraction of zeros is allowed.
-/

namespace Discourse.Text

/-- The most digits a numeral may have. -/
def maxDigits : Nat := 4300

/-- The number with the given decimal digits, the first one most significant. -/
def ofDecimals (digits : List Nat) : Nat := digits.foldl (fun n d => 10 * n + d) 0

/-- Why a run of digits is refused: it has too many. -/
structure NumeralTooLong where
  /-- How many digits it has. -/
  digits : Nat
  deriving DecidableEq, Repr

/-- The value of a run of decimal digits. -/
def readDigits (cs : List Char) : Except NumeralTooLong Nat :=
  let digits := cs.filterMap decimalValue?
  if digits.length ≤ maxDigits then .ok (ofDecimals digits) else .error ⟨digits.length⟩

/-! ## Numerals with a sign -/

/-- The digits without the single low lines between them; none when a low line stands at an end
or beside another one, or when there is nothing at all. -/
def joinDigitGroups? (cs : List Char) : Option (List Char) :=
  let groups := splitWhere (· == '_') cs
  if groups.any List.isEmpty then none else some groups.flatten

/-- The sign, if there is one, and what follows it. -/
def splitSign : List Char → Bool × List Char
  | '-' :: cs => (true, cs)
  | '+' :: cs => (false, cs)
  | cs => (false, cs)

/-- The number with the given sign. -/
def withSign (negative : Bool) (n : Nat) : Int := if negative then -(n : Int) else n

/-- The exponent that a number ends in: none written is zero. -/
def readExponent? : List Char → Option Int
  | [] => some 0
  | c :: cs =>
    if c == 'e' || c == 'E' then
      let (negative, digits) := splitSign cs
      if digits.isEmpty || !digits.all Char.isDigit then none
      else some (withSign negative (ofDecimals (digits.filterMap decimalValue?)))
    else none

/-- An integer as a person types it. -/
def readInteger? (s : String) : Option Int :=
  let (negative, body) := splitSign (stripChars isSpace s.toList)
  match joinDigitGroups? body with
  | none => none
  | some digits =>
    if digits.all isDecimal then
      match readDigits digits with
      | .ok n => some (withSign negative n)
      | .error _ => none
    else none

/-! ## Numerals in settings and records -/

/-- Why a text is no plain numeral. -/
inductive PlainNumeralFault where
  | malformed
  | tooLong
  deriving DecidableEq, Repr

/-- An integer in its one canonical form: a minus sign if it is negative, and ASCII digits of which
the first is no zero unless it is the only one. -/
def readCanonical (cs : List Char) : Except PlainNumeralFault Int :=
  let negative := cs.head? == some '-'
  let (digits, rest) := (if negative then cs.drop 1 else cs).span Char.isDigit
  match digits with
  | [] => .error .malformed
  | d :: ds =>
    if d = '0' && !ds.isEmpty then .error .malformed
    else
      match readDigits digits with
      | .error _ => .error .tooLong
      | .ok n => if rest.isEmpty then .ok (withSign negative n) else .error .malformed

/-- What follows a zero, which is `last` or stands before it: further zeros and low lines go, and
a digit, a minus sign or a point ends them. The point keeps the character before it, and so does
the end. -/
def afterZeros? (last : Char) : List Char → Option (List Char)
  | [] => some [last]
  | c :: cs =>
    if c = '0' || c = '_' then afterZeros? c cs
    else if c.isDigit || c = '-' then some (c :: cs)
    else if c = '.' then some (last :: c :: cs)
    else none

/-- The numeral without its leading zeros; none when it does not begin with a digit. -/
def dropZeros? : List Char → Option (List Char)
  | [] => none
  | c :: cs =>
    if c = '0' then afterZeros? c cs else if c.isDigit then some (c :: cs) else none

/-- The characters before a point that is followed by zeros, of which there is at least one, and
nothing else; otherwise all of them. -/
def cutZeroFraction (cs : List Char) : List Char :=
  let (whole, rest) := cs.span (· != '.')
  match rest with
  | '.' :: d :: fraction => if (d :: fraction).all (· == '0') then whole else cs
  | _ => cs

/-- What a numeral is when the white space around it, a plus sign, leading zeros, a fraction of
zeros and single low lines between digits are gone. -/
def tidyNumeral? (cs : List Char) : Option (List Char) := do
  let (negative, unsigned) := splitSign (stripChars isSpace cs)
  let digits ← joinDigitGroups? (cutZeroFraction (← dropZeros? unsigned))
  return if negative then '-' :: digits else digits

/-- An integer in ASCII digits, in its canonical form or in one that can be tidied up to it. Only a
canonical one is called too long. -/
def readPlainInteger (s : String) : Except PlainNumeralFault Int :=
  match readCanonical s.toList with
  | .error .malformed =>
    match (tidyNumeral? s.toList).map readCanonical with
    | some (.ok n) => .ok n
    | _ => .error .malformed
  | r => r

end Discourse.Text
