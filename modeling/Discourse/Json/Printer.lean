import Discourse.Json.Parser
import Discourse.Text.Half

/-!
# Writing a structured value

A value is written as the row of its tokens, without white space. Half a pair is escaped, so the
text of a value has characters only, even where a text in it has no bytes.

* `Json.tokens`: the tokens of a value.
* `Json.print`: its text.
* `Json.loneHalves?`: the first halves in the texts of a value.
-/

namespace Discourse.Json

mutual

/-- The tokens of a value. -/
def tokens : Json → List Token
  | list [] => [.listOpen, .listClose]
  | list (x :: xs) => .listOpen :: tokens x ++ itemTokens xs ++ [.listClose]
  | object [] => [.objectOpen, .objectClose]
  | object ((name, x) :: fs) =>
    .objectOpen :: .text name :: .colon :: tokens x ++ fieldTokens fs ++ [.objectClose]
  | text t => [.text t]
  | v => [.plain v]

/-- The tokens of the items after the first. -/
def itemTokens : List Json → List Token
  | [] => []
  | x :: xs => .comma :: tokens x ++ itemTokens xs

/-- The tokens of the fields after the first. -/
def fieldTokens : List (Text × Json) → List Token
  | [] => []
  | (name, x) :: fs => .comma :: .text name :: .colon :: tokens x ++ fieldTokens fs

end

/-- The text of a value. -/
def print (v : Json) : String := String.ofList (v.tokens.flatMap Token.chars)

/-! ## Lone halves -/

mutual

/-- The first halves in the texts of a value, none if all of them consist of characters. -/
def loneHalves? : Json → Option Text.LoneHalves
  | text t => t.loneHalves?
  | list items => loneHalvesOfItems? items
  | object fields => loneHalvesOfFields? fields
  | _ => none

/-- The first halves in the texts of the items. -/
def loneHalvesOfItems? : List Json → Option Text.LoneHalves
  | [] => none
  | x :: xs => (loneHalves? x).or (loneHalvesOfItems? xs)

/-- The first halves in the names and values of the fields. -/
def loneHalvesOfFields? : List (Text × Json) → Option Text.LoneHalves
  | [] => none
  | (name, x) :: fs => (name.loneHalves?.or (loneHalves? x)).or (loneHalvesOfFields? fs)

end

end Discourse.Json
