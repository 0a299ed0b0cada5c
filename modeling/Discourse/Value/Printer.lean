import Discourse.Text.Quoted
import Discourse.Value

/-!
# Nested values in words

A nested value is written in two ways: plainly, and as a literal in which every text is quoted and
every set says that it is one. Inside a list everything is a literal; inside a plain set
everything is plain.

* `Value.plain` and `Value.literal`: the two ways.
-/

namespace Discourse

/-- The items between the two texts, commas between them. -/
def enclose (opening closing : Text) (items : List Text) : Text :=
  opening ++ Text.intercalate ", " items ++ closing

/-- The inference with its premises in braces. -/
def Inference.plain (i : Inference) : Text :=
  enclose "\x7b" "\x7d" i.premises.toList ++ " |- " ++ i.conclusion

/-- Literals side by side in parentheses; a single one is followed by a comma. -/
def literalRow : List Text → Text
  | [item] => "(" ++ item ++ ",)"
  | items => enclose "(" ")" items

/-- The inference as a literal. -/
def Inference.literal (i : Inference) : Text :=
  "Inference(premises=" ++ literalRow (i.premises.toList.map fun s => Text.quoted s) ++
    ", conclusion=" ++ Text.quoted i.conclusion ++ ")"

namespace Value

/-- A set as a literal, its members being written already. -/
def literalSet (items : List Text) : Text := "EqualitySet(" ++ enclose "[" "]" items ++ ")"

mutual

/-- The value as a literal. -/
def literal : Value → Text
  | text t => Text.quoted t
  | number n => toString n
  | list items => enclose "[" "]" (literals items)
  | row items => literalRow (literals items)
  | set members => literalSet (literals members)
  | inference i => i.literal

/-- Each value as a literal. -/
def literals : List Value → List Text
  | [] => []
  | x :: xs => literal x :: literals xs

end

mutual

/-- The value in plain words. -/
def plain : Value → Text
  | text t => t
  | number n => toString n
  | list items => enclose "[" "]" (literals items)
  | row items => literalRow (literals items)
  | set members => enclose "\x7b" "\x7d" (plains members)
  | inference i => i.plain

/-- Each value in plain words. -/
def plains : List Value → List Text
  | [] => []
  | x :: xs => plain x :: plains xs

end

end Value

end Discourse
