import Discourse.Text.Quoted
import Discourse.Text.Split

/-!
# Agent identifiers

An agent is known to challenges by its identifier, a number that is written as 32 hexadecimal
digits in five groups. Identifiers are handed out by a supply that counts how many it has handed
out, so it never hands out one twice.

* `AgentId.text` and `AgentId.read?`: writing and reading.
* `AgentId.ofHexadecimal`: reading where marks and groups do not matter.
* `IdSupply.draw`: the next identifier, and the supply after it.
-/

namespace Discourse

/-- The identifier of an agent. -/
structure AgentId where
  number : Nat
  deriving DecidableEq, Repr, Inhabited

namespace AgentId

/-- The identifier in groups of 8, 4, 4, 4 and 12 hexadecimal digits. -/
def text (id : AgentId) : String :=
  let ds := Text.hexDigits 32 id.number
  String.ofList (ds.take 8 ++ '-' :: (ds.drop 8).take 4 ++ '-' :: (ds.drop 12).take 4 ++
    '-' :: (ds.drop 16).take 4 ++ '-' :: ds.drop 20)

/-- An identifier in five groups. -/
def readGroups? (cs : List Char) : Option AgentId :=
  match cs.drop 8, cs.drop 13, cs.drop 18, cs.drop 23 with
  | '-' :: _, '-' :: _, '-' :: _, '-' :: last =>
    if last.length = 12 then
      (Text.hexNumber? (cs.take 8 ++ (cs.drop 9).take 4 ++ (cs.drop 14).take 4 ++
        (cs.drop 19).take 4 ++ last)).map .mk
    else none
  | _, _, _, _ => none

/-- An identifier written as 32 digits in a row, or in groups, which may stand in braces or after
`urn:uuid:`. -/
def read? (s : String) : Option AgentId :=
  let cs := s.toList
  if cs.length = 32 then (Text.hexNumber? cs).map .mk
  else if cs.length = 36 then readGroups? cs
  else if cs.length = 38 && cs.head? == some (Char.ofNat 0x7B) &&
      cs.getLast? == some (Char.ofNat 0x7D) then
    readGroups? ((cs.drop 1).take 36)
  else if cs.length = 45 && cs.take 9 == "urn:uuid:".toList then readGroups? (cs.drop 9)
  else none

/-- Why a text gives no identifier. -/
inductive Fault where
  /-- Without its marks it has not 32 characters. -/
  | wrongLength
  /-- Without its marks it is no hexadecimal numeral. -/
  | notNumeral (rest : String)
  deriving DecidableEq, Repr

/-- The most characters of a literal that a message shows. -/
def mostShown : Nat := 200

/-- The fault in words. -/
def Fault.message : Fault → String
  | .wrongLength => "badly formed hexadecimal UUID string"
  | .notNumeral rest =>
    "invalid literal for int() with base 16: " ++
      String.ofList ((Text.quoted rest).toList.take mostShown)

/-- Whether `c` is a brace. -/
def isBrace (c : Char) : Bool := c == Char.ofNat 0x7B || c == Char.ofNat 0x7D

/-- A text without the marks that may stand in an identifier: first each `urn:` and then each
`uuid:`, the braces at both ends, and all hyphens. -/
def dropMarks (cs : List Char) : List Char :=
  let bare := Text.removeAll "uuid:".toList (Text.removeAll "urn:".toList cs)
  (Text.stripChars isBrace bare).filter (· != '-')

/-- The identifier of a text that has 32 characters when its marks are gone, and then is a
hexadecimal numeral. -/
def ofHexadecimal (s : String) : Except Fault AgentId :=
  let rest := dropMarks s.toList
  if rest.length ≠ 32 then .error .wrongLength
  else
    match Text.readHexNumeral? rest with
    | some n => .ok ⟨n⟩
    | none => .error (.notNumeral (String.ofList rest))

end AgentId

/-- How many identifiers have been handed out. -/
structure IdSupply where
  drawn : Nat := 0
  deriving DecidableEq, Repr, Inhabited

/-- The next identifier and the supply without it. -/
def IdSupply.draw (ids : IdSupply) : AgentId × IdSupply := (⟨ids.drawn + 1⟩, ⟨ids.drawn + 1⟩)

end Discourse
