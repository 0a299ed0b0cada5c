import Discourse.Proofs.OrderedSet.Equality
import Discourse.Proofs.OrderedSet.Order
import Discourse.Proofs.Snapshot.Rebuilding

/-!
# The normal form of a snapshot

A snapshot from anywhere may repeat sentences, rules and challenges. Reading it keeps the first of
each: of equal sentences and challenges, of incompatibilities with the same sentences, and of
inferences with the same premises, in whatever order, and one conclusion. Nothing else changes, and
nothing changes the next time. That the newcomers could be refused never matters.

* `AgentRecord.normal`, `Snapshot.normal`: the first occurrences, said of the lists.
* `Snapshot.rebuild`: reading a snapshot agent by agent, as newcomers that may be refused.
* `Snapshot.rebuild_eq`: nobody is refused.
* `Game.snapshot_ofSnapshot`: what is read and written again is the normal form.
* `Snapshot.rebuild_normalizes`: all of it.
-/

namespace Discourse

universe u v

/-! ## First occurrences -/

section Firsts

variable {α : Type u} {β : Type v}

theorem map_eraseDupsBy {f : α → β} {r : α → α → Bool} {r' : β → β → Bool}
    (h : ∀ a b, r a b = r' (f a) (f b)) :
    ∀ l : List α, (l.eraseDupsBy r).map f = (l.map f).eraseDupsBy r'
  | [] => rfl
  | a :: l => by
    have hrest := map_eraseDupsBy h (l.filter fun b => decide (r b a = false))
    have hfilter : (l.filter fun b => decide (r b a = false)).map f =
        (l.map f).filter fun b => decide (r' b (f a) = false) := by
      rw [List.filter_map]
      exact congrArg (List.map f) (List.filter_congr fun b _ => by simp [h])
    rw [List.eraseDupsBy_cons, List.map_cons, List.map_cons, List.eraseDupsBy_cons, hrest, hfilter]
termination_by l => l.length
decreasing_by exact Nat.lt_succ_of_le (List.length_filter_le _ _)

end Firsts

/-! ## The normal form -/

/-- Whether the lists have the same members. -/
def sameMembers (s t : List Sentence) : Bool := s.all t.contains && t.all s.contains

/-- Whether the inferences have the same premises, in whatever order, and one conclusion. -/
def sameRule (i j : Inference) : Bool :=
  sameMembers i.premises.toList j.premises.toList && i.conclusion == j.conclusion

theorem sameMembers_toList (s t : OrderedSet Sentence) :
    sameMembers s.toList t.toList = (s == t) := by
  rw [Bool.eq_iff_iff, OrderedSet.beq_iff, sameMembers]
  simp only [OrderedSet.mem_iff_mem_toList, Bool.and_eq_true, List.all_eq_true,
    List.contains_iff_mem]
  exact ⟨fun h a => ⟨h.1 a, h.2 a⟩, fun h => ⟨fun a => (h a).mp, fun a => (h a).mpr⟩⟩

theorem sameRule_eq (i j : Inference) : sameRule i j = (i == j) := by
  rw [sameRule, sameMembers_toList, Inference.beq_def]

namespace AgentRecord

/-- The lists of an agent, of each kind the first occurrences only. -/
def normal (r : AgentRecord) : AgentRecord :=
  { r with
    avowed := r.avowed.eraseDups
    incompatibilities := (r.incompatibilities.map List.eraseDups).eraseDupsBy sameMembers
    committive := r.committive.eraseDupsBy sameRule
    permissive := r.permissive.eraseDupsBy sameRule
    challenges := r.challenges.eraseDups }

theorem toList_ofList_inferences (is : List Inference) :
    (OrderedSet.ofList is).toList = is.eraseDupsBy sameRule := by
  have hsame : sameRule = fun i j => i == j := by
    funext i j
    exact sameRule_eq i j
  rw [OrderedSet.toList_ofList, hsame]
  rfl

theorem toList_ofList_incompatibilities (is : List (List Sentence)) :
    (OrderedSet.ofList (is.map OrderedSet.ofList)).toList.map OrderedSet.toList =
      (is.map List.eraseDups).eraseDupsBy sameMembers := by
  have hsame : ∀ i j : Incompatibility, (i == j) = sameMembers i.toList j.toList :=
    fun i j => (sameMembers_toList i j).symm
  have hinner : (is.map OrderedSet.ofList).map OrderedSet.toList = is.map List.eraseDups := by
    rw [List.map_map]
    exact List.map_congr_left fun i _ => OrderedSet.toList_ofList i
  rw [OrderedSet.toList_ofList, List.eraseDups, map_eraseDupsBy hsame, hinner]

/-- Lists that are read and written again are normal. -/
theorem ofAgent_toAgent (r : AgentRecord) : ofAgent r.toAgent = r.normal := by
  simp only [ofAgent, toAgent, normal, toList_ofList_incompatibilities, toList_ofList_inferences]
  simp only [OrderedSet.toList_ofList]

/-- No list of an agent says anything twice. -/
structure IsReduced (r : AgentRecord) : Prop where
  avowed : r.avowed.Nodup
  incompatibilities : r.incompatibilities.Pairwise fun i j => sameMembers i j = false
  incompatibility : ∀ i ∈ r.incompatibilities, i.Nodup
  committive : r.committive.Pairwise fun i j => sameRule i j = false
  permissive : r.permissive.Pairwise fun i j => sameRule i j = false
  premises : ∀ i ∈ r.committive ++ r.permissive, i.premises.toList.Nodup
  challenges : r.challenges.Nodup

theorem isReduced_ofAgent (a : Agent) : (ofAgent a).IsReduced where
  avowed := a.avowed.nodup_toList
  incompatibilities :=
    List.Pairwise.map _ (fun i j h => (sameMembers_toList i j).trans h)
      a.rules.incompatibilities.distinct
  incompatibility := by
    intro i hi
    obtain ⟨s, -, rfl⟩ := List.mem_map.mp hi
    exact s.nodup_toList
  committive := a.rules.committive.distinct.imp fun h => (sameRule_eq _ _).trans h
  permissive := a.rules.permissive.distinct.imp fun h => (sameRule_eq _ _).trans h
  premises := fun i _ => i.premises.nodup_toList
  challenges := a.challenges.nodup_toList

end AgentRecord

/-- The snapshot in which every agent's lists are normal. -/
def Snapshot.normal (s : Snapshot) : Snapshot :=
  { s with agents := s.agents.map AgentRecord.normal }

/-- A snapshot that is read and written again is normal. -/
theorem Game.snapshot_ofSnapshot (s : Snapshot) : (Game.ofSnapshot s).snapshot = s.normal := by
  have hagents : (s.agents.map AgentRecord.toAgent).map AgentRecord.ofAgent =
      s.agents.map AgentRecord.normal := by
    rw [List.map_map]
    exact List.map_congr_left fun r _ => AgentRecord.ofAgent_toAgent r
  rw [ofSnapshot, snapshot, hagents, Snapshot.normal]

/-! ## Rebuilding agent by agent -/

/-- The agents of the records join, each created as a newcomer, until one of them is refused. -/
def Game.recreateAll (defaults : Settings) :
    IdSupply → List AgentRecord → Game → Except GameError Game × IdSupply
  | ids, [], g => (.ok g, ids)
  | ids, r :: records, g =>
    match r.recreate defaults ids with
    | (.ok a, ids) => recreateAll defaults ids records { g with agents := g.agents ++ [a] }
    | (.error e, ids) => (.error e, ids)

/-- The game of a snapshot, made of newcomers; or how one of them was refused. -/
def Snapshot.rebuild (defaults : Settings) (ids : IdSupply) (s : Snapshot) :
    Except GameError Game × IdSupply :=
  Game.recreateAll defaults ids s.agents { transcript := s.transcript }

theorem Game.recreateAll_eq (defaults : Settings) (ids : IdSupply) (records : List AgentRecord)
    (g : Game) : recreateAll defaults ids records g =
      (.ok { g with agents := g.agents ++ records.map AgentRecord.toAgent }, ids) := by
  induction records generalizing g with
  | nil => rw [recreateAll, List.map_nil, List.append_nil]
  | cons r records ih =>
    simp only [recreateAll, AgentRecord.recreate_eq, ih, List.map_cons, List.append_assoc,
      List.singleton_append]

/-- Whatever the settings, nobody is refused. -/
theorem Snapshot.rebuild_eq (defaults : Settings) (ids : IdSupply) (s : Snapshot) :
    s.rebuild defaults ids = (.ok (Game.ofSnapshot s), ids) := by
  rw [rebuild, Game.recreateAll_eq]
  rfl

/-- Every snapshot makes a game, whatever the settings, and the game's snapshot is the normal form
of the one it was made of. That snapshot makes the same game again, with any settings; so it is its own
normal form. And no set of an agent of the game has a member twice. -/
theorem Snapshot.rebuild_normalizes (defaults : Settings) (ids : IdSupply) (s : Snapshot) :
    ∃ g, s.rebuild defaults ids = (.ok g, ids) ∧ g.snapshot = s.normal ∧
      (∀ defaults' ids', g.snapshot.rebuild defaults' ids' = (.ok g, ids')) ∧
      g.snapshot.normal = g.snapshot ∧
      ∀ a ∈ g.agents, (AgentRecord.ofAgent a).IsReduced := by
  refine ⟨.ofSnapshot s, rebuild_eq defaults ids s, Game.snapshot_ofSnapshot s, ?_, ?_,
    fun a _ => AgentRecord.isReduced_ofAgent a⟩
  · intro defaults' ids'
    rw [rebuild_eq, Game.ofSnapshot_snapshot]
  · rw [← Game.snapshot_ofSnapshot, Game.ofSnapshot_snapshot]

end Discourse
