import Discourse.Attribution
import Discourse.Proofs.Closure.Repetition
import Discourse.Proofs.Derivation

/-!
# The meaning of attributed commitments

What a keeper takes another agent to be committed to is what it can derive, by its own committive
inferences and within its own reasoning depth, from what the other has avowed. That the rounds
stop when one changes nothing makes no difference.

* `mem_commitments_iff_iterate`: the members are those after all rounds of the budget.
* `mem_commitments_iff_derives`: and those are the conclusions of derivations of bounded height.
* `mem_commitments_iff_exists_derivation`: both, with the trees spelled out.
-/

namespace Discourse

open OrderedSet

/-- What a keeper makes of what another agent has avowed: any conclusion of its committive
inferences. -/
def commitmentGrounds (keeper other : Agent) : Grounds where
  start s := s ∈ other.avowed
  licensed i := i ∈ keeper.rules.committive.toList
  admissible _ := True

theorem consequences_congr (rules : OrderedSet Inference) (s t : OrderedSet Sentence)
    (h : ∀ a, a ∈ s ↔ a ∈ t) (a : Sentence) :
    a ∈ consequences rules s ↔ a ∈ consequences rules t := by
  rw [mem_consequences, mem_consequences, h, Follows.congr h]

theorem isRound_consequences (keeper other : Agent) :
    (commitmentGrounds keeper other).IsRound (consequences keeper.rules.committive) := by
  intro known _ s
  simp only [mem_consequences, Follows, commitmentGrounds, true_and]

theorem mem_commitments_iff_iterate {keeper other : Agent} {s : Sentence} :
    s ∈ commitments keeper other ↔
      s ∈ (consequences keeper.rules.committive)^[keeper.intelligence] other.avowed :=
  mem_fixedPoint (consequences_congr keeper.rules.committive) keeper.intelligence other.avowed s

theorem mem_commitments_iff_derives {keeper other : Agent} {s : Sentence} :
    s ∈ commitments keeper other ↔
      (commitmentGrounds keeper other).Derives keeper.intelligence s := by
  rw [mem_commitments_iff_iterate]
  refine Grounds.mem_iterate_iff ?_ (isRound_consequences keeper other) _ s
  intro a
  simp only [commitmentGrounds, and_true]

/-- A sentence is attributed as a commitment exactly when the keeper can derive it by its
committive inferences from what the other has avowed, by a derivation no higher than the keeper's
reasoning depth; and the early stop neither loses a sentence nor adds one. -/
theorem mem_commitments_iff_exists_derivation (keeper other : Agent) (s : Sentence) :
    (s ∈ commitments keeper other ↔
      ∃ t : Derivation, t.IsValid (commitmentGrounds keeper other) ∧ t.conclusion = s ∧
        t.height ≤ keeper.intelligence) ∧
    (s ∈ commitments keeper other ↔
      s ∈ (consequences keeper.rules.committive)^[keeper.intelligence] other.avowed) :=
  ⟨mem_commitments_iff_derives, mem_commitments_iff_iterate⟩

end Discourse
