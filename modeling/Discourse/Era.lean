import Discourse.Binary
import Discourse.Text.Numeral
import Discourse.Word

/-!
# Points in time

A point in time is given as a calendar date, as a date with a time of day and an optional offset
from universal time, or as a number of seconds since the beginning of 1970. A number too large for
that is taken as a number of milliseconds. The point itself is never needed, only where it lies:
in one of the years from 1 to 9999, in the year 0, or beyond.

* `Era.ofCount`: where a number of seconds or milliseconds lies.
* `Era.ofBinary`, `Era.ofText?`: the same for other numbers and for texts.
-/

namespace Discourse

/-- Where a point in time lies. -/
inductive Era where
  /-- In one of the years from 1 to 9999. -/
  | common
  /-- In the year before the year 1, which no calendar of the answers has. -/
  | yearZero
  /-- In none of these years. -/
  | beyond
  deriving DecidableEq, Repr

namespace Era

/-! ## Numbers -/

/-- The first second of the year 0. -/
def firstSecond : Int := -62167219200

/-- The first second of the year 1. -/
def firstCommonSecond : Int := -62135596800

/-- The last second of the year 9999. -/
def lastSecond : Int := 253402300799

/-- Where a second lies. -/
def ofSecond (second : Int) : Era :=
  if second < firstSecond ∨ lastSecond < second then beyond
  else if second < firstCommonSecond then yearZero
  else common

/-- The largest number of seconds; from there on numbers are milliseconds. -/
def mostSeconds : Nat := 20000000000

/-- Where a number of seconds or milliseconds lies. -/
def ofCount (count : Int) : Era :=
  ofSecond (if count.natAbs ≤ mostSeconds then count else count / 1000)

/-- Where a number with a fraction lies. The seconds of a number of milliseconds are rounded to 53
binary digits again. -/
def ofBinary (x : Binary) : Era :=
  ofSecond (if x.exceeds mostSeconds then (x.divide 1000).floor else x.floor)

/-- Where a number lies that is written with a point: the digits before and after it, times a power
of ten. -/
def ofDecimal (negative : Bool) (digits : List Char) (exponent : Int) : Era :=
  match Binary.ofDecimal? (digits.filterMap Text.decimalValue?) exponent with
  | some x => ofBinary (x.withSign negative)
  | none => beyond

/-- Where a number lies that is written in digits, none when the text is no such number. A number
with a point may have an exponent; the digits before the point must have room for one more in 64
bits. -/
def ofNumeral? (cs : List Char) : Option Era :=
  let (negative, unsigned) := Text.splitSign cs
  let (whole, rest) := unsigned.span Char.isDigit
  let n := Text.ofDecimals (whole.filterMap Text.decimalValue?)
  match rest with
  | [] => if whole.isEmpty then none else some (ofCount (Text.withSign negative n))
  | '.' :: rest =>
    let (fraction, rest) := rest.span Char.isDigit
    if (whole.isEmpty && fraction.isEmpty) || wordBound ≤ 10 * n then none
    else
      (Text.readExponent? rest).map fun e =>
        ofDecimal negative (whole ++ fraction) (e - fraction.length)
  | _ => none

/-! ## Dates -/

/-- A number of exactly two digits, and what follows it. -/
def twoDigits? : List Char → Option (Nat × List Char)
  | a :: b :: cs =>
    if a.isDigit && b.isDigit then some (10 * (a.toNat - 48) + (b.toNat - 48), cs) else none
  | _ => none

/-- Whether the year of the Gregorian calendar has a 29 February. -/
def isLeapYear (year : Nat) : Bool := year % 4 == 0 && (year % 100 != 0 || year % 400 == 0)

/-- The number of days of a month, none for a month out of range. -/
def daysOfMonth (year month : Nat) : Nat :=
  if month = 2 then if isLeapYear year then 29 else 28
  else if month = 4 ∨ month = 6 ∨ month = 9 ∨ month = 11 then 30
  else if 1 ≤ month ∧ month ≤ 12 then 31
  else 0

/-- The year of a calendar date and what follows the date, none when there is no date. -/
def splitDate? (cs : List Char) : Option (Nat × List Char) := do
  let (century, cs) ← twoDigits? cs
  let (years, cs) ← twoDigits? cs
  let '-' :: cs := cs | none
  let (month, cs) ← twoDigits? cs
  let '-' :: cs := cs | none
  let (day, cs) ← twoDigits? cs
  let year := 100 * century + years
  if 1 ≤ day ∧ day ≤ daysOfMonth year month then some (year, cs) else none

/-- What follows the seconds of a time of day and their fraction; a time may have neither. -/
def afterSeconds? : List Char → Option (List Char)
  | ':' :: cs => do
    let (second, cs) ← twoDigits? cs
    if second > 59 then none
    else
      match cs with
      | c :: rest =>
        if c == '.' || c == ',' then
          match rest with
          | d :: _ => if d.isDigit then some (rest.dropWhile Char.isDigit) else none
          | [] => none
        else some cs
      | [] => some []
  | cs => some cs

/-- Whether the text is an offset from universal time, or nothing. -/
def isOffset : List Char → Bool
  | [] => true
  | [c] => c == 'Z' || c == 'z'
  | c :: cs =>
    (c == '+' || c == '-' || c == Char.ofNat 0x2212) &&
      match twoDigits? cs with
      | none => false
      | some (hour, rest) =>
        match twoDigits? (if rest.head? == some ':' then rest.drop 1 else rest) with
        | some (minute, []) => hour ≤ 23 && minute ≤ 59
        | _ => false

/-- Whether the text is a time of day with an optional offset. -/
def isTimeOfDay (cs : List Char) : Bool :=
  match twoDigits? cs with
  | some (hour, ':' :: rest) =>
    match twoDigits? rest with
    | some (minute, rest) =>
      hour ≤ 23 && minute ≤ 59 && ((afterSeconds? rest).map isOffset).getD false
    | none => false
  | _ => false

/-- Where a date lies, with or without a time of day; none when the text is no date. -/
def ofDate? (cs : List Char) : Option Era :=
  match splitDate? cs with
  | none => none
  | some (year, rest) =>
    let era := if year = 0 then yearZero else common
    match rest with
    | [] => some era
    | c :: rest =>
      if (c == 'T' || c == 't' || c == ' ' || c == '_') && isTimeOfDay rest then some era else none

/-- Where the point in time lies that a text names, none when it names none. -/
def ofText? (s : String) : Option Era :=
  match ofDate? s.toList with
  | some era => some era
  | none => ofNumeral? s.toList

end Era

end Discourse
