import Discourse.Game
import Discourse.Text.Half
import Discourse.Word

/-!
# Stored sessions

Games kept between visits, each under a number of its own. Of a game its agents are stored as
plain lists and its transcript as numbered rows. When a game is saved again the rows stay if they
are the beginning of its transcript, and the rest is added; otherwise they are all replaced.

* `Sessions.create`, `Sessions.load?`, `Sessions.save?`: the store.
* `Sessions.listIds`: the numbers in use, in order.

A number beyond 64 bits cannot even be looked up, and a transcript in which some text has no bytes
cannot be stored.
-/

namespace Discourse

/-- An exchange at its place in a transcript. -/
structure TranscriptRow where
  /-- The place, counted from 0. -/
  sequence : Nat
  exchange : Exchange
  deriving DecidableEq, Repr

/-- What is stored of a game. -/
structure StoredGame where
  agents : List AgentRecord := []
  rows : List TranscriptRow := []

namespace StoredGame

instance : Inhabited StoredGame := ⟨{}⟩

/-- The stored transcript. -/
def transcript (s : StoredGame) : List Exchange := s.rows.map TranscriptRow.exchange

/-- Rows of the exchanges, the first of which has the given number. -/
def numberFrom (first : Nat) : List Exchange → List TranscriptRow
  | [] => []
  | e :: es => ⟨first, e⟩ :: numberFrom (first + 1) es

/-- What is stored once a snapshot is saved over it. -/
def update (s : StoredGame) (snapshot : Snapshot) : StoredGame :=
  let kept := if s.transcript.isPrefixOf snapshot.transcript then s.rows else []
  { agents := snapshot.agents
    rows := kept ++ numberFrom kept.length (snapshot.transcript.drop kept.length) }

/-- The first halves in the texts of some exchanges. -/
def loneHalves? (es : List Exchange) : Option Text.LoneHalves :=
  es.findSome? fun e => (Text.loneHalves? e.input).or (Text.loneHalves? e.output)

/-- The game that is stored. -/
def game (s : StoredGame) : Game := .ofSnapshot ⟨s.agents, s.transcript⟩

end StoredGame

/-- The stored sessions by their numbers, which increase. -/
structure Sessions where
  stored : List (Nat × StoredGame) := []

/-- Why nothing can be looked up or stored. -/
inductive StoreFailure where
  /-- The number does not fit in 64 bits. -/
  | idOutOfRange (id : Int)
  /-- A text of the transcript has no bytes. -/
  | unwritable (halves : Text.LoneHalves)
  deriving DecidableEq, Repr

namespace Sessions

instance : Inhabited Sessions := ⟨{}⟩

/-- The numbers in use. -/
def ids (s : Sessions) : List Nat := s.stored.map Prod.fst

/-- The first number after those in use. -/
def nextId (s : Sessions) : Nat := s.ids.foldl max 0 + 1

/-- What is stored under a number. -/
def get? (s : Sessions) (id : Int) : Option StoredGame :=
  (s.stored.find? fun entry => (entry.1 : Int) == id).map Prod.snd

/-- Stores a game under a new number. -/
def create (s : Sessions) (g : Game) : Except StoreFailure (Nat × Sessions) :=
  match StoredGame.loneHalves? g.transcript with
  | some halves => .error (.unwritable halves)
  | none => .ok (s.nextId, ⟨s.stored ++ [(s.nextId, StoredGame.update {} g.snapshot)]⟩)

/-- The game of a session, if there is one. -/
def load? (s : Sessions) (id : Int) : Except StoreFailure (Option Game) :=
  if isWord id then .ok ((s.get? id).map StoredGame.game) else .error (.idOutOfRange id)

/-- The store with what is under a number changed. -/
def modify (s : Sessions) (id : Int) (f : StoredGame → StoredGame) : Sessions :=
  ⟨s.stored.map fun entry => if (entry.1 : Int) == id then (entry.1, f entry.2) else entry⟩

/-- Saves a game over a session, if there is one. -/
def save? (s : Sessions) (id : Int) (g : Game) : Except StoreFailure (Option Sessions) :=
  if !isWord id then .error (.idOutOfRange id)
  else
    match s.get? id, StoredGame.loneHalves? g.transcript with
    | none, _ => .ok none
    | some _, some halves => .error (.unwritable halves)
    | some _, none => .ok (some (s.modify id (·.update g.snapshot)))

/-- The stored rows of a session, if there is one. -/
def rows? (s : Sessions) (id : Int) : Except StoreFailure (Option StoredGame) :=
  if isWord id then .ok (s.get? id) else .error (.idOutOfRange id)

/-- At most `limit` numbers in use after the first `offset`; a negative limit is none, and a
negative offset skips nothing. -/
def listIds (s : Sessions) (limit offset : Int) : Except StoreFailure (List Nat) :=
  if !isWord limit then .error (.idOutOfRange limit)
  else if !isWord offset then .error (.idOutOfRange offset)
  else
    let rest := s.ids.drop offset.toNat
    .ok (if limit < 0 then rest else rest.take limit.toNat)

end Sessions

end Discourse
