import Discourse.Binary
import Discourse.Text

/-!
# Structured values

The values in which settings are given and games are stored: nothing, truth values, numbers,
texts, lists and objects. The fields of an object keep their order, and no two have one name.

* `Json.get?`: a field of an object.
* `setField`: a field set a second time keeps its place and takes the new value.
* `Json.equals`: equality by value. A truth value equals the number 1 or 0, objects are equal
  whatever the order of their fields, and `NaN` equals nothing. As a part of another value it can
  still be the same as another `NaN`, which depends on how the values came to be.
-/

namespace Discourse

/-- How a structured value came to be: read from its text, or put together from its parts. -/
inductive Medium where
  | text
  | parts
  deriving DecidableEq, Repr

/-- A structured value. -/
inductive Json where
  | null
  | bool (b : Bool)
  | integer (n : Int)
  /-- A number that is written with a fraction or an exponent. -/
  | binary (x : Binary)
  /-- One of the words `NaN`, `Infinity` and `-Infinity`, which stand where a number might. -/
  | word (w : String)
  | text (t : Text)
  | list (items : List Json)
  | object (fields : List (Text × Json))
  deriving Repr, Inhabited

namespace Json

/-! ## Fields -/

/-- The value of the field of the given name. -/
def getField? (name : Text) (fields : List (Text × Json)) : Option Json :=
  (fields.find? (·.1 == name)).map Prod.snd

/-- A field of an object. -/
def get? (name : Text) : Json → Option Json
  | object fields => getField? name fields
  | _ => none

/-- The fields with one set, at its place if there is one of that name, else at the end. -/
def setField (name : Text) (value : Json) : List (Text × Json) → List (Text × Json)
  | [] => [(name, value)]
  | (n, v) :: fields =>
    if n == name then (n, value) :: fields else (n, v) :: setField name value fields

theorem setField_of_not_mem {name : Text} {value : Json} {fields : List (Text × Json)}
    (h : name ∉ fields.map Prod.fst) : setField name value fields = fields ++ [(name, value)] := by
  induction fields with
  | nil => rfl
  | cons f fields ih =>
    rw [List.map_cons, List.mem_cons, not_or] at h
    rw [setField, if_neg (by simpa using fun e => h.1 e.symm), ih h.2, List.cons_append]

/-! ## Numbers -/

/-- The number that a value is, a truth value being 1 or 0. -/
def number? : Json → Option Binary
  | bool b => some (.ofInteger (if b then 1 else 0))
  | integer n => some (.ofInteger n)
  | binary x => some x
  | _ => none

/-! ## Equality by value -/

/-- Whether the value is the word `NaN`. -/
def isNaN : Json → Bool
  | word w => w == "NaN"
  | _ => false

mutual

/-- Whether two parts of values are the same. Of values that are put together from their parts, all
have the one `NaN`; in a text each `NaN` is another one. -/
def same (medium : Medium) : Json → Json → Bool
  | null, null => true
  | text s, text t => s == t
  | list xs, list ys => sameLists medium xs ys
  | object fs, object gs => fs.length == gs.length && sameFields medium fs gs
  | word v, word w => v == w && (v != "NaN" || medium == .parts)
  | x, y =>
    match number? x, number? y with
    | some a, some b => a.same b
    | _, _ => false

/-- Whether two lists are the same item by item. -/
def sameLists (medium : Medium) : List Json → List Json → Bool
  | [], [] => true
  | x :: xs, y :: ys => same medium x y && sameLists medium xs ys
  | _, _ => false

/-- Whether each field is among the others with the same value. -/
def sameFields (medium : Medium) : List (Text × Json) → List (Text × Json) → Bool
  | [], _ => true
  | (name, x) :: fs, gs =>
    (match getField? name gs with
      | some y => same medium x y
      | none => false) && sameFields medium fs gs

end

/-- Whether two values are equal. -/
def equals (medium : Medium) (x y : Json) : Bool := !isNaN x && same medium x y

/-- The values, each at its first place. -/
def distinct (medium : Medium) (values : List Json) : List Json :=
  values.eraseDupsBy (equals medium)

/-! ## Parts of a value -/

/-- The text, if the value is one. -/
def text? : Json → Option Text
  | text t => some t
  | _ => none

/-- The integer, if the value is one. -/
def integer? : Json → Option Int
  | integer n => some n
  | _ => none

/-- The items, if the value is a list. -/
def list? : Json → Option (List Json)
  | list items => some items
  | _ => none

/-- The members of a value that has any: the items of a list, the code points of a text, the field
names of an object. -/
def members? : Json → Option (List Json)
  | list items => some items
  | text t => some (t.singles.map text)
  | object fields => some (fields.map fun f => text f.1)
  | _ => none

/-! ## Depth -/

mutual

/-- How many lists and objects that are not empty stand inside one another. -/
def depth : Json → Nat
  | list [] => 0
  | list (x :: xs) => max (depth x) (depthOfItems xs) + 1
  | object [] => 0
  | object ((_, x) :: fs) => max (depth x) (depthOfFields fs) + 1
  | _ => 0

/-- The greatest depth of the items. -/
def depthOfItems : List Json → Nat
  | [] => 0
  | x :: xs => max (depth x) (depthOfItems xs)

/-- The greatest depth of the values of the fields. -/
def depthOfFields : List (Text × Json) → Nat
  | [] => 0
  | (_, x) :: fs => max (depth x) (depthOfFields fs)

end

end Json

end Discourse
