import Discourse.Proofs.Attribution.Entitlements
import Discourse.Proofs.Attribution.Influence
import Discourse.Proofs.Closure.Growth
import Discourse.Proofs.Game.Newcomers

/-!
# A greater reasoning depth

Commitments are traced to the keeper's depth, entitlements to the other's. In either case a greater
depth appends to what is attributed: whatever a smaller depth gives keeps its place.

* `Agent.withDepth`, `atDepth`: an agent of another depth, alone and within a population.
* `avowed_prefix_commitments`, `commitments_grow`: commitments.
* `admissible_prefix_entitlements`, `entitlements_grow`: entitlements.
* `attribution_grows`: both.
-/

namespace Discourse

open OrderedSet

/-- The agent with another reasoning depth. -/
def Agent.withDepth (n : Nat) (a : Agent) : Agent := { a with intelligence := n }

/-- The population in which whoever bears the identifier has another reasoning depth. -/
def atDepth (id : AgentId) (n : Nat) (population : List Agent) : List Agent :=
  population.map fun a => if a.id = id then a.withDepth n else a

theorem pool_atDepth (id : AgentId) (n : Nat) (population : List Agent) :
    pool (atDepth id n population) = pool population := by
  refine pool_of_reconfigured ?_
  rw [atDepth, List.forall₂_map_right_iff, List.forall₂_same]
  intro a _
  split
  · exact ⟨a.rules, n, rfl⟩
  · exact .refl a

variable {m n : Nat} (population : List Agent) (keeper other : Agent)

/-! ## Commitments -/

theorem avowed_prefix_commitments :
    other.avowed.toList <+: (commitments keeper other).toList :=
  prefix_settle (p := fun _ => True) (fun _ _ => trivial) (fun s _ => prefix_consequences _ s) _
    trivial

theorem commitments_grow (h : m ≤ n) :
    (commitments (keeper.withDepth m) other).toList <+:
      (commitments (keeper.withDepth n) other).toList :=
  settle_prefix_settle (p := fun _ => True) (fun _ _ => trivial)
    (fun s _ => prefix_consequences _ s) h trivial

/-! ## Entitlements -/

/-- The unchallenged assertions that sit with what the keeper takes the other to be committed to,
in the order of the pool. -/
def admissiblePool : List Sentence :=
  (pool population).toList.filter
    (Admissible keeper.rules.incompatibilities (commitments keeper other) ·)

theorem toList_defaultEntitlements :
    (defaultEntitlements population keeper other).toList =
      admissiblePool population keeper other :=
  toList_removeIncompatible (nodup_toList _)

variable {population keeper other} in
theorem admissible_of_mem_defaultEntitlements :
    ∀ s ∈ defaultEntitlements population keeper other,
      Admissible keeper.rules.incompatibilities (commitments keeper other) s :=
  fun _ hs => (mem_removeIncompatible.mp hs).2

theorem admissible_prefix_entitlements :
    admissiblePool population keeper other <+: (entitlements population keeper other).toList := by
  rw [← toList_defaultEntitlements]
  exact prefix_settle (fun _ _ _ => admissible_of_mem_expand) (fun _ => prefix_expand) _
    admissible_of_mem_defaultEntitlements

theorem entitlements_grow (h : m ≤ n) :
    (entitlements population keeper (other.withDepth m)).toList <+:
      (entitlements population keeper (other.withDepth n)).toList :=
  settle_prefix_settle (fun _ _ _ => admissible_of_mem_expand) (fun _ => prefix_expand) h
    admissible_of_mem_defaultEntitlements

/-! ## Both -/

/-- What the keeper takes the other to be committed to begins with what the other has avowed, and a
greater depth of the keeper appends to it. What the keeper takes the other to be entitled to begins
with the admissible part of the pool, and a greater depth of the other appends to it; the keeper,
another agent, stays as it is. No list has a sentence twice. -/
theorem attribution_grows (h : m ≤ n) :
    let held depth := (commitments (keeper.withDepth depth) other).toList
    let entitled depth :=
      (entitlements (atDepth other.id depth population) keeper (other.withDepth depth)).toList
    (held m <+: held n ∧
      ∀ depth, other.avowed.toList <+: held depth ∧ (held depth).Nodup) ∧
    (entitled m <+: entitled n ∧
      ∀ depth, admissiblePool population keeper other <+: entitled depth ∧
        (entitled depth).Nodup) := by
  intro held entitled
  have hentitled : ∀ depth,
      entitled depth = (entitlements population keeper (other.withDepth depth)).toList := by
    intro depth
    simp only [entitled, entitlements, defaultEntitlements, pool_atDepth]
  refine ⟨⟨commitments_grow keeper other h, fun depth => ⟨?_, nodup_toList _⟩⟩, ?_,
    fun depth => ⟨?_, nodup_toList _⟩⟩
  · exact avowed_prefix_commitments (keeper.withDepth depth) other
  · rw [hentitled, hentitled]
    exact entitlements_grow population keeper other h
  · rw [hentitled]
    exact admissible_prefix_entitlements population keeper (other.withDepth depth)

/-- Ada, who has avowed nothing. -/
def ada : Agent := Agent.newcomer {} "Ada" ⟨1⟩

/-- Leo, who has avowed two sentences. -/
def leo : Agent :=
  ((Agent.newcomer {} "Leo" ⟨2⟩).assert "A is red").assert "A is fragrant"

/-- With one round Ada takes Leo to be committed to a third sentence, and he is entitled to two more
than he has avowed. -/
theorem attribution_grows_adaOnLeo :
    (commitments (ada.withDepth 0) leo).toList = ["A is red", "A is fragrant"] ∧
      (commitments (ada.withDepth 1) leo).toList =
        ["A is red", "A is fragrant", "A is colored"] ∧
      (entitlements [ada, leo] ada (leo.withDepth 1)).toList =
        ["A is red", "A is fragrant", "A is colored", "A is edible"] ∧
      (commitments (ada.withDepth 0) leo).toList <+: (commitments (ada.withDepth 1) leo).toList ∧
      (entitlements (atDepth leo.id 0 [ada, leo]) ada (leo.withDepth 0)).toList <+:
        (entitlements (atDepth leo.id 1 [ada, leo]) ada (leo.withDepth 1)).toList := by
  obtain ⟨⟨hheld, -⟩, hentitled, -⟩ := attribution_grows [ada, leo] ada leo (Nat.zero_le 1)
  exact ⟨by decide +kernel, by decide +kernel, by decide +kernel, hheld, hentitled⟩

end Discourse
