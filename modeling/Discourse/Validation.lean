import Discourse.AgentId
import Discourse.Era
import Discourse.Json
import Discourse.Text.Numeral
import Discourse.Word

/-!
# Validation

Reading domain values from structured values. Everything that is wrong is reported, each problem
with the place where it is, in the order in which the places are visited. One thing stops the
reading at once: something that should have members and has none.

* `Reading.both`, `Reading.all`: readings side by side, whose problems add up.
* `readField`, `readList`, `readPair`: readings of parts.
* `readText`, `readInteger`, `readId`, …: readings of values without parts.
-/

namespace Discourse

/-- What is wrong at one place. -/
inductive Fault where
  | missing
  | extra
  | notText
  | notList
  | notTuple
  | tooLong
  | notObject
  | notInteger
  | unreadableInteger
  | fractionalInteger
  | hugeInteger
  | infiniteInteger
  | tooSmall
  | notId
  | unreadableId
  | unreadableTruth
  | notAllowed
  | notTime
  | unreadableTime
  | timeOutOfRange
  | unreadable
  deriving DecidableEq, Repr

/-- The word for what is wrong. -/
def Fault.word : Fault → String
  | .missing => "missing"
  | .extra => "extra_forbidden"
  | .notText => "string_type"
  | .notList => "list_type"
  | .notTuple => "tuple_type"
  | .tooLong => "too_long"
  | .notObject => "model_type"
  | .notInteger => "int_type"
  | .unreadableInteger => "int_parsing"
  | .fractionalInteger => "int_from_float"
  | .hugeInteger => "int_parsing_size"
  | .infiniteInteger => "finite_number"
  | .tooSmall => "greater_than_equal"
  | .notId => "uuid_type"
  | .unreadableId => "uuid_parsing"
  | .unreadableTruth => "bool_parsing"
  | .notAllowed => "literal_error"
  | .notTime => "datetime_type"
  | .unreadableTime => "datetime_from_date_parsing"
  | .timeOutOfRange => "datetime_parsing"
  | .unreadable => "json_invalid"

/-- Something wrong, and where: field names and list indices from the outside in. -/
structure Problem where
  path : List String
  fault : Fault
  deriving DecidableEq, Repr

/-- The problem in words. -/
def Problem.text (p : Problem) : String := ".".intercalate p.path ++ ": " ++ p.fault.word

/-- Several problems in words. -/
def Problem.texts (ps : List Problem) : String := "; ".intercalate (ps.map Problem.text)

/-- Why a value is rejected. -/
inductive Rejection where
  | problems (ps : List Problem)
  /-- Something without members stands where members are wanted. -/
  | memberless
  deriving DecidableEq, Repr

/-- A value read, or why there is none. -/
abbrev Reading (α : Type) := Except Rejection α

namespace Reading

variable {α β : Type}

/-- A reading that fails for one reason. -/
def fail (fault : Fault) : Reading α := .error (.problems [⟨[], fault⟩])

/-- The reading of a part that is found under the given name or index. -/
def under (part : String) : Reading α → Reading α
  | .error (.problems ps) =>
    .error (.problems (ps.map fun p => { p with path := part :: p.path }))
  | r => r

/-- Two readings, the second made even when the first one has problems. -/
def both (first : Reading α) (second : Reading β) : Reading (α × β) :=
  match first, second with
  | .ok a, .ok b => .ok (a, b)
  | .ok _, .error e => .error e
  | .error .memberless, _ => .error .memberless
  | .error (.problems _), .error .memberless => .error .memberless
  | .error (.problems ps), .error (.problems qs) => .error (.problems (ps ++ qs))
  | .error (.problems ps), .ok _ => .error (.problems ps)

/-- Readings one after another, each made whatever becomes of those before it. -/
def all : List (Reading α) → Reading (List α)
  | [] => .ok []
  | r :: rs => (both r (all rs)).map fun (a, as) => a :: as

theorem all_map_ok {γ : Type} (f : γ → α) (xs : List γ) :
    all (xs.map fun x => (.ok (f x) : Reading α)) = .ok (xs.map f) := by
  induction xs with
  | nil => rfl
  | cons x xs ih => simp only [List.map_cons, all, ih]; rfl

end Reading

/-! ## Parts -/

section Parts

variable {α β : Type}

/-- The readings of the items, each under its index, the first of which is `index`. -/
def readItems (read : Json → Reading α) (index : Nat) : List Json → List (Reading α)
  | [] => []
  | item :: items => (read item).under (toString index) :: readItems read (index + 1) items

/-- A list. -/
def readList (read : Json → Reading α) (v : Json) : Reading (List α) :=
  match v with
  | .list items => .all (readItems read 0 items)
  | _ => .fail .notList

/-- A list of exactly two items; the items of a longer one are not looked at. -/
def readPair (read : Json → Reading α) (read' : Json → Reading β) (v : Json) : Reading (α × β) :=
  match v with
  | .list [] => .both (.under "0" (.fail .missing)) (.under "1" (.fail .missing))
  | .list [a] => .both ((read a).under "0") (.under "1" (.fail .missing))
  | .list [a, b] => .both ((read a).under "0") ((read' b).under "1")
  | .list _ => .fail .tooLong
  | _ => .fail .notTuple

/-- The fields of an object. -/
def readFields (read : List (Text × Json) → Reading α) (v : Json) : Reading α :=
  match v with
  | .object fields => read fields
  | _ => .fail .notObject

/-- A field that must be there. -/
def readField (name : String) (read : Json → Reading α) (fields : List (Text × Json)) :
    Reading α :=
  match Json.getField? name fields with
  | some v => (read v).under name
  | none => .under name (.fail .missing)

/-- A field that may be left out. -/
def readFieldD (name : String) (default : α) (read : Json → Reading α)
    (fields : List (Text × Json)) : Reading α :=
  match Json.getField? name fields with
  | some v => (read v).under name
  | none => .ok default

/-- A value, or none for null. -/
def readNullable (read : Json → Reading α) (v : Json) : Reading (Option α) :=
  match v with
  | .null => .ok none
  | v => (read v).map some

end Parts

/-! ## Values without parts -/

/-- A text. -/
def readText : Json → Reading Text
  | .text t => .ok t
  | _ => .fail .notText

/-- The integer that a number with a fraction or an exponent stands for. It is less than
`wordBound`, and so is what it is without its sign. -/
def readBinary (x : Binary) : Reading Int :=
  match x.integer? with
  | none => .fail .fractionalInteger
  | some n => if n.natAbs < wordBound then .ok n else .fail .hugeInteger

/-- An integer. A truth value, another number without a fraction and a numeral stand for one. -/
def readInteger : Json → Reading Int
  | .integer n => .ok n
  | .bool b => .ok (if b then 1 else 0)
  | .binary x => readBinary x
  | .word _ => .fail .infiniteInteger
  | .text t =>
    match t.toString?.map Text.readPlainInteger with
    | some (.ok n) => .ok n
    | some (.error .tooLong) => .fail .hugeInteger
    | _ => .fail .unreadableInteger
  | _ => .fail .notInteger

/-- An integer that is at least `low`. -/
def readNatFrom (low : Nat) (v : Json) : Reading Nat :=
  match readInteger v with
  | .ok n => if n < low then .fail .tooSmall else .ok n.toNat
  | .error e => .error e

/-- The identifier of an agent. -/
def readId : Json → Reading AgentId
  | .text t =>
    match t.toString?.bind AgentId.read? with
    | some id => .ok id
    | none => .fail .unreadableId
  | _ => .fail .notId

/-- A point in time that lies in a year. -/
def readEra : Era → Reading Unit
  | .common => .ok ()
  | _ => .fail .timeOutOfRange

/-- A point in time, which is not kept. In a text an integer of more than 64 bits is none. -/
def readTime (medium : Medium) : Json → Reading Unit
  | .integer n =>
    if isWord n then readEra (.ofCount n)
    else
      match medium, Binary.nearest? n.natAbs 1 with
      | .parts, some _ => .fail .timeOutOfRange
      | _, _ => .fail .notTime
  | .binary x => readEra (.ofBinary x)
  | .word _ => .fail .timeOutOfRange
  | .text t =>
    match t.toString?.bind Era.ofText? with
    | none | some .beyond => .fail .unreadableTime
    | some era => readEra era
  | _ => .fail .notTime

/-- The text of a truth value: one of six words for each, in whatever case. -/
def readTruth (t : Text) : Reading Bool :=
  match t.toString?.map (·.map Char.toLower) with
  | some word =>
    if ["1", "t", "y", "on", "yes", "true"].contains word then .ok true
    else if ["0", "f", "n", "no", "off", "false"].contains word then .ok false
    else .fail .unreadableTruth
  | none => .fail .unreadableTruth

end Discourse
