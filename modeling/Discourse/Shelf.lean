import Discourse.Value.Printer

/-!
# A shelf of sets

Sets that stand on a shelf, some of them under names. A set on the shelf can be changed in place,
and it can be a member of another one: what is done to it shows wherever it is a member. So an
entry of a set is either a value of its own or the place of another set on the shelf, and two
entries are compared by what they hold at present.

* `Shelf.same`: whether two entries are equal at present.
* `Shelf.insert`, `Shelf.delete`, `Shelf.update`: changes of a set in place.
* `Shelf.copy`, `Shelf.union`, `Shelf.inter`, `Shelf.sdiff`, `Shelf.filter`: the members of new
  sets.
* `Shelf.valueOf`, `Shelf.literal`: what an entry is at present, and how it is written.

A change in place can make two members of some other set equal. They both stay there, and a new
set made from that set has only the first of them. A set can even become a member of itself. Then
it has no value, and a comparison that would not end is given up.
-/

namespace Discourse

/-- What a set on the shelf holds: a value of its own, or the set at a place on the shelf. -/
inductive Entry where
  | value (v : Value)
  | place (n : Nat)
  deriving Inhabited

/-- Sets, each at its place, and the names under which some of them are known. -/
structure Shelf where
  sets : List (List Entry) := []
  names : List (String × Nat) := []

/-- Why something cannot be done with a set. -/
inductive ShelfFailure where
  /-- No set has the name. -/
  | unknown
  /-- A value is used that does not admit it, such as a number where members are wanted. -/
  | unsuitable
  /-- Too many sets stand inside one another, as they do where one holds itself. -/
  | endless
  deriving DecidableEq, Repr

namespace Shelf

/-! ## Names and places -/

/-- The place of the set of the given name. -/
def find (s : Shelf) (name : String) : Except ShelfFailure Nat :=
  match s.names.find? (·.1 == name) with
  | some (_, n) => .ok n
  | none => .error .unknown

/-- Gives a name to the set at a place. -/
def name (s : Shelf) (name : String) (n : Nat) : Shelf := { s with names := (name, n) :: s.names }

/-- The shelf with another set at a place. -/
def replace (s : Shelf) (n : Nat) (entries : List Entry) : Shelf :=
  { s with sets := s.sets.set n entries }

/-- A new set on the shelf, and its place. -/
def place (s : Shelf) (entries : List Entry) : Nat × Shelf :=
  (s.sets.length, { s with sets := s.sets ++ [entries] })

/-! ## Members -/

/-- The entries of the set at a place. -/
def entriesAt (s : Shelf) (n : Nat) : List Entry := (s.sets[n]?).getD []

/-- The members of an entry that is a set. -/
def setMembers? (s : Shelf) : Entry → Option (List Entry)
  | .place n => some (s.entriesAt n)
  | .value (.set members) => some (members.map .value)
  | .value _ => none

/-- The members of an entry that has any, be it a set or not. -/
def membersOf (s : Shelf) : Entry → Except ShelfFailure (List Entry)
  | .place n => .ok (s.entriesAt n)
  | .value v =>
    match v.members? with
    | some members => .ok (members.map .value)
    | none => .error .unsuitable

/-! ## Comparison -/

/-- How many sets inside one another a comparison looks at. -/
def mostDepth : Nat := 124

/-- Whether two entries that are not both sets are equal. -/
def samePlain : Entry → Entry → Bool
  | .value v, .value w => v == w
  | _, _ => false

/-- Whether two entries are equal, going down `depth` sets. Two sets are equal when they have as
many members and each member of the first is among those of the second. -/
def sameWithin (s : Shelf) : Nat → Entry → Entry → Except ShelfFailure Bool
  | 0, e, f =>
    if (s.setMembers? e).isSome && (s.setMembers? f).isSome then .error .endless
    else .ok (samePlain e f)
  | depth + 1, e, f =>
    match s.setMembers? e, s.setMembers? f with
    | some es, some fs =>
      if es.length = fs.length then es.allM fun x => fs.anyM fun y => s.sameWithin depth y x
      else .ok false
    | _, _ => .ok (samePlain e f)

/-- Whether two entries are equal at present. -/
def same (s : Shelf) (e f : Entry) : Except ShelfFailure Bool := s.sameWithin mostDepth e f

/-- Whether one of the entries equals `e`. -/
def isAmong (s : Shelf) (entries : List Entry) (e : Entry) : Except ShelfFailure Bool :=
  entries.anyM fun x => s.same x e

/-- The entries with `e` at the end, unless one of them equals it. -/
def join (s : Shelf) (entries : List Entry) (e : Entry) : Except ShelfFailure (List Entry) :=
  return if ← s.isAmong entries e then entries else entries ++ [e]

/-- The entries that equal no earlier one. -/
def distinct (s : Shelf) (entries : List Entry) : Except ShelfFailure (List Entry) :=
  entries.foldlM s.join []

/-! ## Changes in place -/

/-- Adds an entry to the set at a place, unless a member equals it. -/
def insert (s : Shelf) (n : Nat) (e : Entry) : Except ShelfFailure Shelf :=
  return s.replace n (← s.join (s.entriesAt n) e)

/-- Removes the members that equal an entry. -/
def delete (s : Shelf) (n : Nat) (e : Entry) : Except ShelfFailure Shelf :=
  return s.replace n (← (s.entriesAt n).filterM fun x => (s.same x e).map not)

/-- Adds the members of an entry one after another. -/
def update (s : Shelf) (n : Nat) (e : Entry) : Except ShelfFailure Shelf := do
  (← s.membersOf e).foldlM (fun s e => s.insert n e) s

/-! ## Questions -/

/-- Whether some member equals an entry. -/
def contains (s : Shelf) (n : Nat) (e : Entry) : Except ShelfFailure Bool :=
  s.isAmong (s.entriesAt n) e

/-- Whether each of the entries is among the members of another one. The two are sets around those
that are compared. -/
def areWithin (s : Shelf) (entries : List Entry) (e : Entry) : Except ShelfFailure Bool := do
  let others ← s.membersOf e
  entries.allM fun x => others.anyM fun y => s.sameWithin (mostDepth - 1) y x

/-- Whether every member is among those of an entry. -/
def isSubset (s : Shelf) (n : Nat) (e : Entry) : Except ShelfFailure Bool :=
  s.areWithin (s.entriesAt n) e

/-- Whether an entry is at most another one: of a set, whether all its members are among those of
the other. -/
def isAtMost (s : Shelf) (e f : Entry) : Except ShelfFailure Bool :=
  match s.setMembers? e, e, f with
  | some entries, _, _ => s.areWithin entries f
  | none, .value v, .value w => ((v.atMost? w).map .ok).getD (.error .unsuitable)
  | none, _, _ => .error .unsuitable

/-- Whether `f` is in `e`. In a text there are only its parts. -/
def holds (s : Shelf) (e f : Entry) : Except ShelfFailure Bool :=
  match e, f with
  | .value (.text whole), .value (.text part) => .ok (Value.isPart part.points whole.points)
  | .value (.text _), _ => .error .unsuitable
  | _, _ => do s.isAmong (← s.membersOf e) f

/-! ## New sets -/

/-- The members of the set at a place, without those that have come to equal an earlier one. -/
def copy (s : Shelf) (n : Nat) : Except ShelfFailure (List Entry) := s.distinct (s.entriesAt n)

/-- The members, then those of an entry. -/
def union (s : Shelf) (n : Nat) (e : Entry) : Except ShelfFailure (List Entry) := do
  let members ← s.copy n
  (← s.membersOf e).foldlM s.join members

/-- The members that satisfy `p`, none when `p` cannot be asked of some member. -/
def filter (s : Shelf) (n : Nat) (p : Entry → Except ShelfFailure Bool) :
    Except ShelfFailure (List Entry) := do
  s.distinct (← (s.entriesAt n).filterM p)

/-- The members that are among those of an entry. -/
def inter (s : Shelf) (n : Nat) (e : Entry) : Except ShelfFailure (List Entry) := do
  let others ← s.membersOf e
  s.filter n (s.isAmong others)

/-- The members that are not among those of an entry. -/
def sdiff (s : Shelf) (n : Nat) (e : Entry) : Except ShelfFailure (List Entry) := do
  let others ← s.membersOf e
  s.filter n fun x => (s.isAmong others x).map not

/-! ## Values -/

/-- The value of an entry at present, `depth` bounding the sets on the shelf inside one another. -/
def valueWithin (s : Shelf) : Nat → Entry → Except ShelfFailure Value
  | _, .value v => .ok v
  | 0, .place _ => .error .endless
  | depth + 1, .place n => ((s.entriesAt n).mapM (s.valueWithin depth)).map .set

/-- The value of an entry at present. Sets inside one another are no deeper than the shelf has
sets, unless one of them holds itself. -/
def valueOf (s : Shelf) (e : Entry) : Except ShelfFailure Value := s.valueWithin s.sets.length e

/-- An entry as a literal, `begun` being the places of the sets around it. Of a set inside itself
only the brackets are written. -/
def literalWithin (s : Shelf) : Nat → List Nat → Entry → Text
  | _, _, .value v => v.literal
  | 0, _, .place _ => Value.literalSet ["..."]
  | depth + 1, begun, .place n =>
    Value.literalSet
      (if begun.contains n then ["..."]
      else (s.entriesAt n).map (s.literalWithin depth (n :: begun)))

/-- An entry as a literal. -/
def literal (s : Shelf) (e : Entry) : Text := s.literalWithin (s.sets.length + 1) [] e

end Shelf

end Discourse
