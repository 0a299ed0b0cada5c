import Discourse.Game
import Discourse.Snapshot.Writing

/-!
# The hall

Agents do not vanish when they leave a game, and one may come into being without ever joining.
The hall knows everybody by a number, and which of them are seated at the game. Whoever leaves the
table stays in the hall as it was, and can still be spoken to.

* `Hall.game`: the game of those who are seated.
* `Hall.bringIn`, `Hall.join`, `Hall.leave`: coming and going.
* `Hall.change`: what an agent does to itself, seated or not.
-/

namespace Discourse

/-- Everybody who ever came, and who of them is seated. -/
structure Hall where
  /-- Everybody, in the order of coming. -/
  people : List Agent := []
  /-- The numbers of those who are seated, in the order of joining. -/
  seated : List Nat := []
  transcript : List Exchange := []
  ids : IdSupply := {}

namespace Hall

instance : Inhabited Hall := ⟨{}⟩

/-- The agent of a number. -/
def person? (h : Hall) (n : Nat) : Option Agent := h.people[n]?

/-- The game of those who are seated. -/
def game (h : Hall) : Game := ⟨h.seated.filterMap h.person?, h.transcript⟩

/-- The number of a seated agent, by its name. -/
def seatOf? (h : Hall) (name : Text) : Option Nat :=
  h.seated.find? fun n => (h.person? n).any (Game.hasName name)

/-- The number of a seated agent that must be there. -/
def getSeat (h : Hall) (name : Text) : Except GameError Nat :=
  match h.seatOf? name with
  | some n => .ok n
  | none => .error (.agentNotFound name)

/-- Brings somebody into the hall, who is not seated: the number, and the hall. -/
def bringIn (h : Hall) (a : Agent) : Nat × Hall :=
  (h.people.length, { h with people := h.people ++ [a] })

/-- Lets a newcomer into the hall only. -/
def enter (h : Hall) (defaults : Settings) (name : Text) (seed : Seed) :
    Except GameError Nat × Hall :=
  match Agent.create defaults name seed h.ids with
  | (.ok a, ids) =>
    let (n, h) := h.bringIn a
    (.ok n, { h with ids })
  | (.error e, ids) => (.error e, { h with ids })

/-- Lets a newcomer join the game. -/
def join (h : Hall) (defaults : Settings) (name : Text) (seed : Seed) :
    Except GameError Nat × Hall :=
  match h.seatOf? name with
  | some _ => (.error (.duplicateName name), h)
  | none =>
    match h.enter defaults name seed with
    | (.ok n, h) => (.ok n, { h with seated := h.seated ++ [n] })
    | (.error e, h) => (.error e, h)

/-- Lets a seated agent leave the game. -/
def leave (h : Hall) (name : Text) : Except GameError (Nat × Hall) :=
  match h.getSeat name with
  | .ok n => .ok (n, { h with seated := h.seated.erase n })
  | .error e => .error e

/-- Puts a game of newcomers in the place of the present one. -/
def seat (h : Hall) (g : Game) (ids : IdSupply) : Hall where
  people := h.people ++ g.agents
  seated := List.range' h.people.length g.agents.length
  transcript := g.transcript
  ids := ids

/-- Begins a new game. -/
def newGame (h : Hall) (defaults : Settings) : Except GameError Unit × Hall :=
  let (result, g, ids) := Game.newGame defaults h.ids
  (result, h.seat g ids)

/-- Empties the table. -/
def reset (h : Hall) : Hall := h.seat {} h.ids

/-- Replaces the game by what is read back from its text, if it can be written. -/
def reload (h : Hall) : Except Text.LoneHalves Hall :=
  match h.game.reload with
  | .error halves => .error halves
  | .ok (some g) => .ok (h.seat g h.ids)
  | .ok none => .ok h

/-- Changes the agent of a number. -/
def change (h : Hall) (n : Nat) (f : Agent → Agent) : Hall :=
  { h with people := h.people.modify n f }

/-- Adds an exchange to the transcript. -/
def record (h : Hall) (input output : Text) : Hall :=
  { h with transcript := h.transcript ++ [⟨input, output⟩] }

end Hall

end Discourse
