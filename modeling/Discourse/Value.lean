import Discourse.Inference

/-!
# Nested values

What an ordered set may hold besides sentences: numbers, lists, rows, inferences, and sets again,
to any depth. Such values are compared by structure, sets and premises without regard to order.

* `Value.same`: equality by structure, and the instance of `BEq` that it gives.
* `Value.members?`: what a value holds, if it holds anything.
* `Value.atMost?`: the order of numbers and texts, inclusion of sets, and the order of lists item
  by item, where the two values can be compared at all.
-/

namespace Discourse

/-- A nested value. The members of a set are listed in order. A row is a list of fixed length and
never equals a list. -/
inductive Value where
  | text (t : Text)
  | number (n : Int)
  | list (items : List Value)
  | row (items : List Value)
  | set (members : List Value)
  | inference (i : Inference)
  deriving Inhabited

namespace Value

/-! ## Equality -/

mutual

/-- Equality by structure. Two sets are equal when they have as many members and each member of
the first is among those of the second. -/
def same : Value → Value → Bool
  | text s, text t => s == t
  | number m, number n => m == n
  | list xs, list ys => sameItems xs ys
  | row xs, row ys => sameItems xs ys
  | set xs, set ys => xs.length == ys.length && allAmong xs ys
  | inference i, inference j => i == j
  | _, _ => false
termination_by x y => sizeOf x + sizeOf y

/-- Whether two lists are equal item by item. -/
def sameItems : List Value → List Value → Bool
  | [], [] => true
  | x :: xs, y :: ys => same x y && sameItems xs ys
  | _, _ => false
termination_by xs ys => sizeOf xs + sizeOf ys

/-- Whether each of the first values is among the second. -/
def allAmong : List Value → List Value → Bool
  | [], _ => true
  | x :: xs, ys => isAmong x ys && allAmong xs ys
termination_by xs ys => sizeOf xs + sizeOf ys

/-- Whether one of the values equals `x`. -/
def isAmong (x : Value) : List Value → Bool
  | [] => false
  | y :: ys => same y x || isAmong x ys
termination_by ys => sizeOf x + sizeOf ys

end

instance : BEq Value := ⟨same⟩

/-! ## Members -/

/-- The two named parts of an inference, each a row of the name and the part. -/
def partsOf (i : Inference) : List Value :=
  [row [text "premises", row (i.premises.toList.map text)],
    row [text "conclusion", text i.conclusion]]

/-- What the value holds: the items of a list or row, the members of a set, the code points of a
text, the parts of an inference. A number holds nothing. -/
def members? : Value → Option (List Value)
  | text t => some (t.singles.map text)
  | list items => some items
  | row items => some items
  | set members => some members
  | inference i => some (partsOf i)
  | number _ => none

/-- Whether the first code points stand somewhere among the second. -/
def isPart (ps : List CodePoint) : List CodePoint → Bool
  | [] => ps.isEmpty
  | q :: qs => ps.isPrefixOf (q :: qs) || isPart ps qs

/-- A set of the given items, as a value. -/
def setOf (items : List Value) : Value := set (OrderedSet.ofList items).toList

/-! ## Order -/

mutual

/-- Whether the first value is at most the second, where the two can be compared. A set is at
most whatever holds all its members. -/
def atMost? : Value → Value → Option Bool
  | text s, text t => some (s.isAtMost t)
  | number m, number n => some (m ≤ n)
  | list xs, list ys => listAtMost? xs ys
  | row xs, row ys => listAtMost? xs ys
  | set xs, y => y.members?.map (allAmong xs)
  | _, _ => none

/-- Whether the first list is at most the second, by the first items that differ. -/
def listAtMost? : List Value → List Value → Option Bool
  | [], _ => some true
  | _ :: _, [] => some false
  | x :: xs, y :: ys => if same x y then listAtMost? xs ys else atMost? x y

end

end Value

end Discourse
