import Discourse.Agent

/-!
# Snapshots

The state of a game as plain lists, as it is stored between sessions. A snapshot may come from
anywhere: its lists may repeat sentences, rules or challenges, and two of its agents may share a
name or an identifier. A game keeps its sets free of repetitions, so reading a snapshot drops
them.

* `AgentRecord.ofAgent` and `AgentRecord.toAgent`: writing and reading one agent.
* `toAgent_ofAgent_id` and its companions: nothing but repetitions can be lost.
-/

namespace Discourse

/-- One command and the answer to it. -/
structure Exchange where
  input : Text
  output : Text
  deriving DecidableEq, Repr, Inhabited

/-- The state of one agent as plain lists. -/
structure AgentRecord where
  id : AgentId
  name : Text
  intelligence : Nat
  avowed : List Sentence := []
  incompatibilities : List (List Sentence) := []
  committive : List Inference := []
  permissive : List Inference := []
  challenges : List Challenge := []

/-- The state of a game as plain lists. -/
structure Snapshot where
  agents : List AgentRecord := []
  transcript : List Exchange := []

namespace AgentRecord

instance : Inhabited AgentRecord := ⟨{ id := default, name := "", intelligence := 0 }⟩

/-- The lists of an agent. -/
def ofAgent (a : Agent) : AgentRecord where
  id := a.id
  name := a.name
  intelligence := a.intelligence
  avowed := a.avowed.toList
  incompatibilities := a.rules.incompatibilities.toList.map OrderedSet.toList
  committive := a.rules.committive.toList
  permissive := a.rules.permissive.toList
  challenges := a.challenges.toList

/-- The agent with these lists, each repetition dropped. -/
def toAgent (r : AgentRecord) : Agent where
  id := r.id
  name := r.name
  intelligence := r.intelligence
  avowed := .ofList r.avowed
  rules :=
    { committive := .ofList r.committive
      permissive := .ofList r.permissive
      incompatibilities := .ofList (r.incompatibilities.map .ofList) }
  challenges := .ofList r.challenges

@[simp] theorem toAgent_ofAgent_id (a : Agent) : (ofAgent a).toAgent.id = a.id := rfl

@[simp] theorem toAgent_ofAgent_name (a : Agent) : (ofAgent a).toAgent.name = a.name := rfl

@[simp] theorem toAgent_ofAgent_intelligence (a : Agent) :
    (ofAgent a).toAgent.intelligence = a.intelligence := rfl

end AgentRecord

end Discourse
