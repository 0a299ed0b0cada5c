import Discourse.Sessions

/-!
# Calls of the store

Games come into one store and out of it again by calls, one after another. A call that fails leaves
the store as it was.

* `Sessions.Call` and `Sessions.Answer`: what is asked of a store, and what it answers.
* `Sessions.perform`, `Sessions.after`: one call, and several.
* `Sessions.lastKept`: the game that came last under a number, which the calls and their answers
  tell without a look at the store.
-/

namespace Discourse.Sessions

/-- What is asked of a store. -/
inductive Call where
  | create (g : Game)
  | save (id : Int) (g : Game)
  | load (id : Int)

/-- What a store answers. -/
inductive Answer where
  | created (id : Nat)
  | saved
  | loaded (g : Game)
  /-- There is no session of the number. -/
  | unknown
  | failed (e : StoreFailure)

/-- The answer to a call, and the store after it. -/
def perform (s : Sessions) : Call → Answer × Sessions
  | .create g =>
    match s.create g with
    | .ok (id, s) => (.created id, s)
    | .error e => (.failed e, s)
  | .save id g =>
    match s.save? id g with
    | .ok (some s) => (.saved, s)
    | .ok none => (.unknown, s)
    | .error e => (.failed e, s)
  | .load id =>
    match s.load? id with
    | .ok (some g) => (.loaded g, s)
    | .ok none => (.unknown, s)
    | .error e => (.failed e, s)

/-- The store after the calls. -/
def after (s : Sessions) (calls : List Call) : Sessions :=
  calls.foldl (fun s c => (s.perform c).2) s

/-- The calls, each with the answer to it. -/
def history (s : Sessions) : List Call → List (Call × Answer)
  | [] => []
  | c :: calls => (c, (s.perform c).1) :: history (s.perform c).2 calls

/-- The game that a call has stored under a number, if it has. -/
def kept? (id : Int) : Call × Answer → Option Game
  | (.create g, .created n) => if (n : Int) = id then some g else none
  | (.save m g, .saved) => if m = id then some g else none
  | _ => none

/-- The game that was stored last under a number. -/
def lastKept (id : Int) (past : List (Call × Answer)) : Option Game :=
  past.reverse.findSome? (kept? id)

end Discourse.Sessions
