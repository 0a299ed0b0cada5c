import Discourse.Text.Blank
import Discourse.Text.Split

/-!
# Cookies

A cookie header holds names and values, pairs separated by semicolons. A value may stand in double
quotes; then a backslash escapes the character after it, or stands for the character whose number
follows in three octal digits. Of two cookies of one name the later one counts.

* `cookies`: the pairs in order.
* `cookie?`: the value of a name.
-/

namespace Discourse.Web

/-- The value of an octal digit below a limit. -/
def octal? (limit : Nat) (c : Char) : Option Nat :=
  if '0' ≤ c ∧ c.toNat - 48 < limit then some (c.toNat - 48) else none

/-- The text with its escapes replaced. -/
def unescape : List Char → List Char
  | '\\' :: a :: b :: d :: cs =>
    match octal? 4 a, octal? 8 b, octal? 8 d with
    | some x, some y, some z => Char.ofNat (64 * x + 8 * y + z) :: unescape cs
    | _, _, _ =>
      if a == '\n' then '\\' :: unescape (a :: b :: d :: cs) else a :: unescape (b :: d :: cs)
  | '\\' :: a :: cs => if a == '\n' then '\\' :: unescape (a :: cs) else a :: unescape cs
  | c :: cs => c :: unescape cs
  | [] => []

/-- The value behind what stands in the header. -/
def unquote (cs : List Char) : List Char :=
  if 2 ≤ cs.length && cs.head? == some '"' && cs.getLast? == some '"' then
    unescape ((cs.drop 1).dropLast)
  else cs

/-- The name and the value of one pair; a pair without `=` has no name. -/
def readPair (cs : List Char) : String × String :=
  let (name, value) := (Text.splitFirst '=' cs).getD ([], cs)
  (String.ofList (Text.stripChars Text.isBlank name),
    String.ofList (unquote (Text.stripChars Text.isBlank value)))

/-- The names and values of a header, in order. -/
def cookies (header : String) : List (String × String) :=
  (Text.splitWhere (· == ';') header.toList).map readPair

/-- The value of the cookie of the name. -/
def cookie? (name : String) (header : String) : Option String :=
  ((cookies header).reverse.find? (·.1 == name)).map Prod.snd

end Discourse.Web
