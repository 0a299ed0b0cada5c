import Discourse.Attribution
import Discourse.Description
import Discourse.Snapshot
import Discourse.Text.Lowercase

/-!
# The game

The agents in the order in which they joined, and the transcript of what was said. Names are
compared in lower case, and a look-up finds the first agent of a name.

* `Game.addAgent`: a newcomer is refused when the name is taken.
* `Game.newGame`: an empty game that the configured agents join one after another; where one is
  refused, those before it stay.
* `Game.modifyNamed`: a change to the one agent that a look-up finds.
* `Game.snapshot` and `Game.ofSnapshot`: the game as plain lists and back.
-/

namespace Discourse

/-- A game of giving and asking for reasons. -/
structure Game where
  /-- First come first. -/
  agents : List Agent := []
  /-- First said first. -/
  transcript : List Exchange := []

namespace Game

instance : Inhabited Game := ⟨{}⟩

/-! ## Names -/

/-- Whether the agent has the name, in whatever case. -/
def hasName (name : Text) (a : Agent) : Bool := Text.lower a.name == Text.lower name

/-- The agent of the name, if there is one. -/
def agentNamed? (g : Game) (name : Text) : Option Agent := g.agents.find? (hasName name)

/-- The agent of the name. -/
def getAgent (g : Game) (name : Text) : Except GameError Agent :=
  match g.agentNamed? name with
  | some a => .ok a
  | none => .error (.agentNotFound name)

/-- The list with its first element that satisfies `p` changed. -/
def modifyFirst {α : Type} (p : α → Bool) (f : α → α) : List α → List α
  | [] => []
  | a :: as => if p a then f a :: as else a :: modifyFirst p f as

/-- The game with the agent of the name changed. -/
def modifyNamed (g : Game) (name : Text) (f : Agent → Agent) : Game :=
  { g with agents := modifyFirst (hasName name) f g.agents }

/-! ## Joining and leaving -/

/-- Lets a newcomer join at the end. -/
def addAgent (g : Game) (defaults : Settings) (name : Text) (seed : Seed) (ids : IdSupply) :
    Except GameError Agent × Game × IdSupply :=
  match g.agentNamed? name with
  | some _ => (.error (.duplicateName name), g, ids)
  | none =>
    match Agent.create defaults name seed ids with
    | (.ok a, ids) => (.ok a, { g with agents := g.agents ++ [a] }, ids)
    | (.error e, ids) => (.error e, g, ids)

/-- Lets newcomers join one after another, until one is refused. -/
def addAgents (g : Game) (defaults : Settings) (ids : IdSupply) :
    List Text → Except GameError Unit × Game × IdSupply
  | [] => (.ok (), g, ids)
  | name :: names =>
    match g.addAgent defaults name {} ids with
    | (.ok _, g, ids) => g.addAgents defaults ids names
    | (.error e, g, ids) => (.error e, g, ids)

/-- An empty game that the configured agents join. -/
def newGame (defaults : Settings) (ids : IdSupply) : Except GameError Unit × Game × IdSupply :=
  addAgents {} defaults ids defaults.seedAgents

/-- Lets the agent of the name leave. -/
def removeAgent (g : Game) (name : Text) : Except GameError (Agent × Game) :=
  match g.agentNamed? name with
  | some a => .ok (a, { g with agents := g.agents.eraseP (hasName name) })
  | none => .error (.agentNotFound name)

/-! ## Scores -/

/-- The score that one agent keeps on another, by their names. -/
def scoreByName (g : Game) (keeper other : Text) : Except GameError Score :=
  match g.getAgent keeper with
  | .error e => .error e
  | .ok k =>
    match g.getAgent other with
    | .error e => .error e
    | .ok o => .ok (score g.agents k o)

/-- The identifiers of those present. -/
def present (g : Game) : List AgentId := g.agents.map Agent.id

/-! ## Descriptions -/

/-- The name of the first agent with the identifier. -/
def nameOf? (g : Game) (id : AgentId) : Option Text :=
  (g.agents.find? (·.id == id)).map Agent.name

/-- The description of an agent. -/
def descriptionOf (g : Game) (a : Agent) : Description where
  name := a.name
  intelligence := a.intelligence
  avowed := a.avowed.toList
  incompatibilities := a.rules.incompatibilities.toList.map OrderedSet.toList
  committive := a.rules.committive.toList
  permissive := a.rules.permissive.toList
  challenges := a.challenges.toList.map fun c => ⟨c.target, g.nameOf? c.target, c.sentence⟩

/-- The description of the agent of the name. -/
def describe (g : Game) (name : Text) : Except GameError Description :=
  match g.getAgent name with
  | .ok a => .ok (g.descriptionOf a)
  | .error e => .error e

/-! ## Transcript and snapshots -/

/-- Adds an exchange to the transcript. -/
def record (g : Game) (input output : Text) : Game :=
  { g with transcript := g.transcript ++ [⟨input, output⟩] }

/-- The game as plain lists. -/
def snapshot (g : Game) : Snapshot := ⟨g.agents.map AgentRecord.ofAgent, g.transcript⟩

/-- The game of a snapshot. Names and identifiers are taken as they are. -/
def ofSnapshot (s : Snapshot) : Game := ⟨s.agents.map AgentRecord.toAgent, s.transcript⟩

end Game

end Discourse
