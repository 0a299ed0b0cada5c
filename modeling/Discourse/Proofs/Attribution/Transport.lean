import Discourse.Attribution
import Mathlib.Data.List.Basic

/-!
# What scores are made from

Of an agent a score shows the name, and it is computed from the depth, the avowed sentences and the
rules. Of the challenges only this matters: who in the population is challenged by whom, and on
what. So agents can be replaced by others that agree with them in this, and the scores stay.

* `KeepsScores`: a replacement that changes nothing that scores are made from.
* `KeepsScores.score`, `KeepsScores.scoreAll`: the scores stay.
-/

namespace Discourse

/-- The replacement of agents leaves alone whatever scores in the population are made from. -/
structure KeepsScores (population : List Agent) (φ : Agent → Agent) : Prop where
  name : ∀ a, (φ a).name = a.name
  intelligence : ∀ a, (φ a).intelligence = a.intelligence
  avowed : ∀ a, (φ a).avowed = a.avowed
  rules : ∀ a, (φ a).rules = a.rules
  challengedOf : ∀ a ∈ population, ∀ t ∈ population,
    (φ a).challengedOf (φ t) = a.challengedOf t

namespace KeepsScores

variable {population : List Agent} {φ : Agent → Agent}

theorem challengedSentences (h : KeepsScores population φ) {t : Agent} (ht : t ∈ population) :
    Discourse.challengedSentences (population.map φ) (φ t) =
      Discourse.challengedSentences population t := by
  rw [Discourse.challengedSentences, List.foldl_map]
  refine List.foldl_ext _ _ _ fun found a ha => ?_
  rw [h.challengedOf a ha t ht]

theorem pool (h : KeepsScores population φ) :
    Discourse.pool (population.map φ) = Discourse.pool population := by
  rw [Discourse.pool, List.foldl_map]
  refine List.foldl_ext _ _ _ fun found a ha => ?_
  rw [unchallengedAssertions, h.avowed, h.challengedSentences ha]
  rfl

theorem commitments (h : KeepsScores population φ) (keeper other : Agent) :
    Discourse.commitments (φ keeper) (φ other) = Discourse.commitments keeper other := by
  rw [Discourse.commitments, h.rules, h.intelligence, h.avowed]
  rfl

theorem entitlements (h : KeepsScores population φ) (keeper other : Agent) :
    Discourse.entitlements (population.map φ) (φ keeper) (φ other) =
      Discourse.entitlements population keeper other := by
  rw [Discourse.entitlements, defaultEntitlements, h.commitments, h.pool, h.rules, h.intelligence]
  rfl

theorem incompatibles (h : KeepsScores population φ) (keeper other : Agent) :
    Discourse.incompatibles (φ keeper) (φ other) = Discourse.incompatibles keeper other := by
  rw [Discourse.incompatibles, h.commitments, h.rules]
  rfl

theorem score (h : KeepsScores population φ) (keeper other : Agent) :
    Discourse.score (population.map φ) (φ keeper) (φ other) =
      Discourse.score population keeper other := by
  rw [Discourse.score, h.name, h.name, h.commitments, h.entitlements, h.incompatibles]
  rfl

theorem byName (h : KeepsScores population φ) :
    Discourse.byName (population.map φ) = (Discourse.byName population).map φ := by
  refine (List.map_mergeSort ?_).symm
  intro a _ b _
  rw [h.name, h.name]

theorem scoreAll (h : KeepsScores population φ) :
    Discourse.scoreAll (population.map φ) = Discourse.scoreAll population := by
  rw [Discourse.scoreAll, h.byName, List.flatMap_map]
  simp only [List.map_map, Function.comp_def, h.score]
  rfl

end KeepsScores

end Discourse
