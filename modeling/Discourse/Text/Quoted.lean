import Discourse.Text
import Discourse.Text.Hexadecimal
import Discourse.Text.Printable

/-!
# Quoted literals

A text written as a literal: between single quotes, or between double quotes when it holds a
single quote and no double one. The backslash and the quote in use are escaped, line breaks and
tabs have letters, and every other code point that is not printable is written by its number, in
two, four or eight hexadecimal digits, whichever is enough. So a literal has characters only.

* `quoted`: the literal.
-/

namespace Discourse.Text

/-- A number after a backslash. -/
def escapedNumber (n : Nat) : List Char :=
  if n < 0x100 then '\\' :: 'x' :: hexDigits 2 n
  else if n < 0x10000 then '\\' :: 'u' :: hexDigits 4 n
  else '\\' :: 'U' :: hexDigits 8 n

/-- `c` as it stands in a literal between two `quote`s. -/
def quotedChar (quote c : Char) : List Char :=
  if c == quote || c == '\\' then ['\\', c]
  else if c == '\n' then ['\\', 'n']
  else if c == '\r' then ['\\', 'r']
  else if c == '\t' then ['\\', 't']
  else if isPrintable c then [c]
  else escapedNumber c.toNat

/-- A code point as it stands in a literal between two `quote`s. -/
def quotedPoint (quote : Char) : CodePoint → List Char
  | .char c => quotedChar quote c
  | p => escapedNumber p.number

/-- The quote of a literal: a double one only where that saves an escape. -/
def literalQuote (cs : List Char) : Char :=
  if cs.contains '\'' && !cs.contains '"' then '"' else '\''

/-- The text as a literal. -/
def quoted (t : Text) : String :=
  let quote := literalQuote t.chars
  String.ofList (quote :: t.points.flatMap (quotedPoint quote) ++ [quote])

end Discourse.Text
