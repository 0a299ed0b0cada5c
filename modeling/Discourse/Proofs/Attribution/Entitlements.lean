import Discourse.Proofs.Attribution.Pool
import Discourse.Proofs.Closure.Repetition
import Discourse.Proofs.Derivation

/-!
# The meaning of attributed entitlements

What a keeper takes another agent to be entitled to is what it can derive, within the other's
reasoning depth, from the pool of unchallenged assertions. Committive inferences carry
entitlement; permissive ones do so only from premises that the other is committed to as well. No
sentence of the derivation may complete an incompatibility together with the commitments.

A round prunes, so it need not add to an arbitrary set. The sets that occur have been pruned
before, and to those it only adds; this is the invariant under which rounds and derivations agree.

* `mem_entitlements_iff_derives`: the members are the conclusions of derivations of bounded
  height.
* `not_mem_entitlements_of_incompatible`: nothing in an incompatibility that is held is entitled.
* `mem_entitlements_iff_exists_derivation`: both, with the trees spelled out.
-/

namespace Discourse

open OrderedSet

/-- What a keeper makes of a population when it traces what another agent is entitled to. -/
def entitlementGrounds (population : List Agent) (keeper other : Agent) : Grounds where
  start s := ∃ a ∈ population, s ∈ a.avowed ∧
    ∀ b ∈ population, (⟨a.id, s⟩ : Challenge) ∉ b.challenges
  licensed := Licensed keeper.rules (commitments keeper other)
  admissible := Admissible keeper.rules.incompatibilities (commitments keeper other)

theorem expand_congr (rules : RuleBook) (held s t : OrderedSet Sentence)
    (h : ∀ a, a ∈ s ↔ a ∈ t) (a : Sentence) :
    a ∈ expand rules held s ↔ a ∈ expand rules held t := by
  have hinter : ∀ b, b ∈ s ∩ held ↔ b ∈ t ∩ held := fun b => by rw [mem_inter, mem_inter, h]
  rw [mem_expand, mem_expand, h, Follows.congr h, Follows.congr hinter]

theorem isStart_defaultEntitlements (population : List Agent) (keeper other : Agent) :
    (entitlementGrounds population keeper other).IsStart
      (defaultEntitlements population keeper other) := by
  intro s
  rw [defaultEntitlements, mem_removeIncompatible, ← mem_iff_mem_toList, mem_pool]
  exact Iff.rfl

theorem isRound_expand (population : List Agent) (keeper other : Agent) :
    (entitlementGrounds population keeper other).IsRound
      (expand keeper.rules (commitments keeper other)) :=
  fun _ h _ => mem_expand_of_admissible h

theorem mem_entitlements_iff_derives {population : List Agent} {keeper other : Agent}
    {s : Sentence} :
    s ∈ entitlements population keeper other ↔
      (entitlementGrounds population keeper other).Derives other.intelligence s := by
  rw [entitlements, mem_fixedPoint (expand_congr _ _)]
  exact Grounds.mem_iterate_iff (isStart_defaultEntitlements population keeper other)
    (isRound_expand population keeper other) _ s

/-- Every sentence of an incompatibility that is held completes it, and so has no derivation. -/
theorem not_mem_entitlements_of_incompatible {population : List Agent} {keeper other : Agent}
    {i : Incompatibility} (hi : i ∈ (incompatibles keeper other).toList) {s : Sentence}
    (hs : s ∈ i) : s ∉ entitlements population keeper other := by
  intro h
  obtain ⟨hmem, hheld⟩ := List.mem_filter.mp hi
  have hadm := (mem_entitlements_iff_derives.mp h).admissible
  exact hadm i hmem hs fun x hx => Or.inl (isSubset_iff.mp hheld x hx)

/-- A sentence is attributed as an entitlement exactly when it has a derivation, no higher than
the other's reasoning depth, from unchallenged assertions, by inferences that carry entitlement,
all of whose sentences are admissible; and no sentence of an incompatibility that is held is
attributed. -/
theorem mem_entitlements_iff_exists_derivation (population : List Agent) (keeper other : Agent)
    (s : Sentence) :
    (s ∈ entitlements population keeper other ↔
      ∃ t : Derivation, t.IsValid (entitlementGrounds population keeper other) ∧
        t.conclusion = s ∧ t.height ≤ other.intelligence) ∧
    ∀ i ∈ (incompatibles keeper other).toList, s ∈ i → s ∉ entitlements population keeper other :=
  ⟨mem_entitlements_iff_derives, fun _ hi hs => not_mem_entitlements_of_incompatible hi hs⟩

end Discourse
