import Discourse.Text.Hexadecimal
import Discourse.Text.Split
import Discourse.Text.Utf8

/-!
# Form encoding

The encoding in which a form or a query string carries its fields: fields separated by `&`, name
and value by the first `=`, a plus sign for a space, and any byte as a percent sign with two
hexadecimal digits. A percent sign without two such digits stands for itself.

* `formFields`: the fields in order. A field without `=` has the empty value; an empty field is
  no field.
* `percentDecode`: one name or value.
-/

namespace Discourse.Text

/-- The bytes of a text in which `%XX` is one byte, other characters being their UTF-8 bytes. -/
def percentBytes : List Char → List Nat
  | [] => []
  | '%' :: a :: b :: cs =>
    match hexValue? a, hexValue? b with
    | some m, some n => (16 * m + n) :: percentBytes cs
    | _, _ => encodeChar '%' ++ percentBytes (a :: b :: cs)
  | c :: cs => encodeChar c ++ percentBytes cs

/-- The text behind a name or a value. -/
def percentDecode (cs : List Char) : String :=
  String.ofList (decode (percentBytes (cs.map fun c => if c == '+' then ' ' else c)))

/-- One field, its name and its value. -/
def formField (cs : List Char) : String × String :=
  match splitFirst '=' cs with
  | some (name, value) => (percentDecode name, percentDecode value)
  | none => (percentDecode cs, "")

/-- The fields of a form or a query string, in order. -/
def formFields (s : String) : List (String × String) :=
  ((splitWhere (· == '&') s.toList).filter fun piece => !piece.isEmpty).map formField

end Discourse.Text
