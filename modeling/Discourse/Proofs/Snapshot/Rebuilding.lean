import Discourse.Game
import Discourse.Proofs.OrderedSet.Membership

/-!
# Rebuilding from a snapshot

The sets of an agent repeat nothing, so writing them as lists and reading these loses nothing. An
agent is rebuilt as a newcomer that brings along every rule list, empty ones included, asserts what
it had avowed and takes up its challenges again; so the settings have no part in it.

* `AgentRecord.toAgent_ofAgent`: an agent is read back from its lists.
* `Game.ofSnapshot_snapshot`: a game is read back from its snapshot.
* `AgentRecord.recreate_eq`: an agent read from its lists is the newcomer that they make.
-/

namespace Discourse

namespace AgentRecord

/-- An agent is read back from its lists. -/
theorem toAgent_ofAgent (a : Agent) : (ofAgent a).toAgent = a := by
  obtain ⟨id, name, intelligence, avowed, ⟨committive, permissive, incompatibilities⟩,
    challenges⟩ := a
  have hsets : (incompatibilities.toList.map OrderedSet.toList).map OrderedSet.ofList =
      incompatibilities.toList := by
    rw [List.map_map]
    exact List.map_id'' (fun i => OrderedSet.ofList_toList i) _
  simp only [ofAgent, toAgent, OrderedSet.ofList_toList, hsets]

/-! ## As a newcomer -/

/-- The lists that an agent brings along when it is created again. -/
def seed (r : AgentRecord) : Seed where
  committive := some r.committive
  permissive := some r.permissive
  incompatibilities := some (r.incompatibilities.map .ofList)
  intelligence := some r.intelligence
  id := some r.id

/-- The agent takes a challenge on record. -/
def addChallenge (a : Agent) (c : Challenge) : Agent :=
  { a with challenges := a.challenges.insert c }

/-- The newcomer of these lists, once it has asserted what it had avowed and taken up its
challenges. -/
def recreate (defaults : Settings) (ids : IdSupply) (r : AgentRecord) :
    Except GameError Agent × IdSupply :=
  match Agent.create defaults r.name r.seed ids with
  | (.ok a, ids) => (.ok (r.challenges.foldl addChallenge (r.avowed.foldl Agent.assert a)), ids)
  | (.error e, ids) => (.error e, ids)

theorem foldl_assert (a : Agent) (sentences : List Sentence) :
    sentences.foldl Agent.assert a = { a with avowed := a.avowed.insertAll sentences } := by
  induction sentences generalizing a with
  | nil => rfl
  | cons s sentences ih => rw [List.foldl_cons, ih]; rfl

theorem foldl_addChallenge (a : Agent) (challenges : List Challenge) :
    challenges.foldl addChallenge a =
      { a with challenges := a.challenges.insertAll challenges } := by
  induction challenges generalizing a with
  | nil => rfl
  | cons c challenges ih => rw [List.foldl_cons, ih]; rfl

/-- Whatever the settings, the lists make the newcomer that is read from them, and it draws no
identifier. -/
theorem recreate_eq (defaults : Settings) (ids : IdSupply) (r : AgentRecord) :
    r.recreate defaults ids = (.ok r.toAgent, ids) := by
  have hdepth : ¬ ((r.intelligence : Int) < 0) := by omega
  have hcreate : Agent.create defaults r.name r.seed ids =
      (.ok { r.toAgent with avowed := ∅, challenges := ∅ }, ids) := by
    simp only [Agent.create, seed, Option.getD_some, hdepth, if_false]
    rfl
  simp only [recreate, hcreate, foldl_assert, foldl_addChallenge]
  rfl

end AgentRecord

/-- A game is read back from its snapshot. -/
theorem Game.ofSnapshot_snapshot (g : Game) : Game.ofSnapshot g.snapshot = g := by
  have hagents : (g.agents.map AgentRecord.ofAgent).map AgentRecord.toAgent = g.agents := by
    rw [List.map_map]
    exact List.map_id'' AgentRecord.toAgent_ofAgent _
  rw [ofSnapshot, snapshot, hagents]

end Discourse
