import Discourse.Json.Token

/-!
# Reading a structured value

The tokens of a value are taken one after another. The lists and objects that are still open are
kept on a stack, the innermost on top, together with what may come next; a closing bracket makes
the top one an item of the one below.

* `Json.accept`: what one more token does.
* `Json.ofTokens?`: the value of a row of tokens.
* `Json.parse?`: the value of a text.
* `Json.firstTooDeep?`: where too many lists and objects stand inside one another.
-/

namespace Discourse.Json

/-- A list or an object that is still open. Items and fields are kept in order; of an object also
the name whose value is awaited. -/
inductive Open where
  | list (items : List Json)
  | object (fields : List (Text × Json)) (name : Text)
  deriving Repr

/-- What may come next. -/
inductive Awaiting where
  | value
  /-- The first item of a list, or its end. -/
  | itemOrEnd
  /-- The first name of an object, or its end. -/
  | nameOrEnd
  | name
  | colon
  /-- A comma, or the end of what is open. -/
  | commaOrEnd
  | nothing
  deriving DecidableEq, Repr

/-- Where the reading of a value stands. -/
structure Reader where
  awaiting : Awaiting := .value
  /-- What is open, innermost first. -/
  opened : List Open := []
  /-- The whole value, once it is complete. -/
  result : Json := null
  deriving Repr

/-- Puts a complete value where it belongs. -/
def Reader.put (v : Json) : List Open → Reader
  | [] => { awaiting := .nothing, result := v }
  | .list items :: opened => { awaiting := .commaOrEnd, opened := .list (items ++ [v]) :: opened }
  | .object fields name :: opened =>
    { awaiting := .commaOrEnd, opened := .object (setField name v fields) name :: opened }

/-- What a token does where a value is awaited. -/
def Reader.start (r : Reader) : Token → Option Reader
  | .text s => some (.put (text s) r.opened)
  | .plain v => some (.put v r.opened)
  | .listOpen => some { awaiting := .itemOrEnd, opened := .list [] :: r.opened }
  | .objectOpen => some { awaiting := .nameOrEnd, opened := .object [] "" :: r.opened }
  | _ => none

/-- What a token does to the innermost open list or object once it has an item. -/
def Reader.next (r : Reader) (t : Token) : Option Reader :=
  match r.opened, t with
  | .list _ :: _, .comma => some { r with awaiting := .value }
  | .list items :: opened, .listClose => some (.put (list items) opened)
  | .object _ _ :: _, .comma => some { r with awaiting := .name }
  | .object fields _ :: opened, .objectClose => some (.put (object fields) opened)
  | _, _ => none

/-- What a token does where a name is awaited. -/
def Reader.named (r : Reader) (t : Token) : Option Reader :=
  match r.opened, t with
  | .object fields _ :: opened, .text s =>
    some { r with awaiting := .colon, opened := .object fields s :: opened }
  | _, _ => none

/-- What one more token does, none when it is out of place. -/
def Reader.accept (r : Reader) (t : Token) : Option Reader :=
  match r.awaiting with
  | .value => r.start t
  | .itemOrEnd =>
    match t with
    | .listClose => r.next t
    | _ => r.start t
  | .nameOrEnd =>
    match t with
    | .objectClose => r.next t
    | _ => r.named t
  | .name => r.named t
  | .colon =>
    match t with
    | .colon => some { r with awaiting := .value }
    | _ => none
  | .commaOrEnd => r.next t
  | .nothing => none

/-- Where the reading stands after the tokens. -/
def Reader.acceptAll (r : Reader) : List Token → Option Reader
  | [] => some r
  | t :: ts =>
    match r.accept t with
    | some r => r.acceptAll ts
    | none => none

/-- The value of a row of tokens. -/
def ofTokens? (ts : List Token) : Option Json :=
  match Reader.acceptAll {} ts with
  | some r => if r.awaiting = .nothing then some r.result else none
  | none => none

/-- The value that a text writes. -/
def parse? (s : String) : Option Json :=
  match tokens? s with
  | some ts => ofTokens? ts
  | none => none

/-! ## Depth -/

/-- The kinds of values that others stand inside. -/
inductive Container where
  | list
  | object
  deriving DecidableEq, Repr

/-- The kind of what is open. -/
def Open.container : Open → Container
  | .list _ => .list
  | .object _ _ => .object

/-- The kind of the first value that is opened inside `most` others, as long as the tokens are in
place. -/
def Reader.firstTooDeep? (most : Nat) (r : Reader) : List Token → Option Container
  | [] => none
  | t :: ts =>
    match r.accept t with
    | some r =>
      match r.opened with
      | o :: opened => if most ≤ opened.length then some o.container else r.firstTooDeep? most ts
      | [] => r.firstTooDeep? most ts
    | none => none

/-- The kind of the first value in a text that is opened inside `most` others, unless the text is
out of order before. -/
def firstTooDeep? (most : Nat) (s : String) : Option Container :=
  Reader.firstTooDeep? most {} (frontTokens s)

end Discourse.Json
