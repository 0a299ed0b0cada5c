import Discourse.AgentId
import Discourse.GameError
import Discourse.Inference
import Discourse.Settings

/-!
# Agents

A participant in the game of giving and asking for reasons: what it has avowed, the rules by
which it keeps score on the others, and the challenges it has issued. What it attributes to
others is computed from this and never stored.

* `Agent.create`: a newcomer, with rules of its own or those of the settings. It draws its
  identifier before anything is checked.
* `Agent.challenge`: only what its target has avowed can be challenged.
* `Agent.withdrawDangling`: gives up challenges whose targets have left.
-/

namespace Discourse

/-- A dispute of an agent's entitlement to a sentence. The target is named by its identifier, so
a challenge against an agent that has left matches nobody. -/
structure Challenge where
  target : AgentId
  sentence : Sentence
  deriving DecidableEq, Repr, Inhabited

/-- A participant in the game. -/
structure Agent where
  id : AgentId
  name : Text
  /-- How many rounds the agent reasons. -/
  intelligence : Nat
  /-- The sentences it has asserted and not disavowed. -/
  avowed : OrderedSet Sentence
  rules : RuleBook
  /-- The challenges it has on record. -/
  challenges : OrderedSet Challenge

/-- What a newcomer brings along; the settings supply what is left out. -/
structure Seed where
  committive : Option (List Inference) := none
  permissive : Option (List Inference) := none
  incompatibilities : Option (List Incompatibility) := none
  intelligence : Option Int := none
  id : Option AgentId := none

namespace Seed

/-- The inferences of a configured rule list. -/
def inferencesOf (specs : List RuleSpec) : List Inference :=
  specs.map fun spec => .ofPremises spec.premises spec.conclusion

/-- The rules of a newcomer. -/
def rules (defaults : Settings) (seed : Seed) : RuleBook where
  committive := .ofList (seed.committive.getD (inferencesOf defaults.defaultCommittive))
  permissive := .ofList (seed.permissive.getD (inferencesOf defaults.defaultPermissive))
  incompatibilities :=
    .ofList (seed.incompatibilities.getD (defaults.defaultIncompatibilities.map .ofList))

/-- The identifier of a newcomer, its own or the next of the supply. -/
def drawId (seed : Seed) (ids : IdSupply) : AgentId × IdSupply :=
  match seed.id with
  | some id => (id, ids)
  | none => ids.draw

end Seed

namespace Agent

instance : Inhabited Agent := ⟨⟨default, "", 0, ∅, default, ∅⟩⟩

/-! ## Joining -/

/-- A newcomer, and the supply after its identifier is drawn. -/
def create (defaults : Settings) (name : Text) (seed : Seed) (ids : IdSupply) :
    Except GameError Agent × IdSupply :=
  let (id, ids) := seed.drawId ids
  let intelligence := seed.intelligence.getD defaults.defaultIntelligence
  if intelligence < 0 then (.error (.negativeIntelligence intelligence), ids)
  else
    (.ok
      { id, name
        intelligence := intelligence.toNat
        avowed := ∅
        rules := seed.rules defaults
        challenges := ∅ },
      ids)

/-! ## Reasoning depth -/

/-- The agent with another reasoning depth; a negative one is refused. -/
def setIntelligence (a : Agent) (value : Int) : Except GameError Agent :=
  if value < 0 then .error (.negativeIntelligence value)
  else .ok { a with intelligence := value.toNat }

/-! ## Avowed commitments -/

/-- Avows a sentence. -/
def assert (a : Agent) (s : Sentence) : Agent := { a with avowed := a.avowed.insert s }

/-- Takes back a sentence. -/
def disavow (a : Agent) (s : Sentence) : Agent := { a with avowed := a.avowed.erase s }

/-! ## Challenges -/

/-- Challenges the target's entitlement to a sentence that it has avowed; anything else cannot be
challenged. -/
def challenge (a target : Agent) (s : Sentence) : Option Agent :=
  if target.avowed.contains s then
    some { a with challenges := a.challenges.insert ⟨target.id, s⟩ }
  else none

/-- Withdraws the challenge to the target's entitlement to a sentence. -/
def withdraw (a target : Agent) (s : Sentence) : Agent :=
  { a with challenges := a.challenges.erase ⟨target.id, s⟩ }

/-- Whether a challenge disputes the sentence and its target is not among those present. -/
def isDangling (present : List AgentId) (s : Sentence) (c : Challenge) : Bool :=
  c.sentence == s && !present.contains c.target

/-- The number of challenges to the sentence whose targets are absent. -/
def danglingCount (a : Agent) (present : List AgentId) (s : Sentence) : Nat :=
  (a.challenges.filter (isDangling present s)).size

/-- Withdraws the challenges to the sentence whose targets are absent. -/
def withdrawDangling (a : Agent) (present : List AgentId) (s : Sentence) : Agent :=
  { a with challenges := a.challenges.filter fun c => !isDangling present s c }

/-! ## Rules -/

/-- Changes the inferences of one kind. -/
def changeInferences (a : Agent) (kind : InferenceKind)
    (change : OrderedSet Inference → OrderedSet Inference) : Agent :=
  { a with rules := a.rules.changeInferences kind change }

/-- Changes the incompatibilities. -/
def changeIncompatibilities (a : Agent)
    (change : OrderedSet Incompatibility → OrderedSet Incompatibility) : Agent :=
  { a with rules := a.rules.changeIncompatibilities change }

/-! ## Shown in one line -/

/-- The agent's name and reasoning depth. -/
def summary (a : Agent) : Text :=
  "Agent(name=" ++ Text.quoted a.name ++ ", intelligence=" ++ toString a.intelligence ++ ")"

end Agent

end Discourse
