import Discourse.Proofs.Attribution.Commitments
import Discourse.Proofs.Attribution.Entitlements
import Discourse.Proofs.Closure.Saturation

/-!
# Reasoning comes to an end

A reasoning depth may be any number, and yet the work is bounded by the rules: there is at most one
round more than there are conclusions still to be found. A depth of as many rounds as there are
conclusions is as good as any greater one, for then everything that follows is attributed.

* `isStart_avowed`, `mem_inferences_of_licensed`: where commitments begin, and the inferences that
  carry entitlement.
* `attribution_saturates`: commitments by the keeper's depth, entitlements by the other's.
-/

namespace Discourse

open OrderedSet

theorem isStart_avowed (keeper other : Agent) :
    (commitmentGrounds keeper other).IsStart other.avowed := by
  intro s
  simp only [commitmentGrounds, and_true]

theorem mem_inferences_of_licensed {rules : RuleBook} {held : OrderedSet Sentence} {i : Inference}
    (hi : Licensed rules held i) : i ∈ rules.committive.toList ++ rules.permissive.toList := by
  rcases hi with hi | ⟨hi, -⟩
  · exact List.mem_append_left _ hi
  · exact List.mem_append_right _ hi

/-- Commitments take at most as many rounds as the keeper's depth, and at most one more than there
are conclusions of its committive inferences that the other has not avowed. With a depth of as many
rounds they are the least set that has what the other has avowed and is closed under the keeper's
committive inferences. For entitlements the depth is the other's, the conclusions are those of both
kinds of inferences outside the admissible pool, and the least set has the admissible pool and is
closed under what carries entitlement to admissible sentences. -/
theorem attribution_saturates (population : List Agent) (keeper other : Agent) :
    let committive := keeper.rules.committive.toList
    let both := committive ++ keeper.rules.permissive.toList
    let base := defaultEntitlements population keeper other
    let k := (outstanding committive other.avowed).size
    let k' := (outstanding both base).size
    (fixedPointCalls (consequences keeper.rules.committive) keeper.intelligence other.avowed ≤
        min keeper.intelligence (k + 1) ∧
      (k ≤ keeper.intelligence →
        IsLeast {held | (commitmentGrounds keeper other).IsClosed held}
          {s | s ∈ commitments keeper other})) ∧
    (fixedPointCalls (expand keeper.rules (commitments keeper other)) other.intelligence base ≤
        min other.intelligence (k' + 1) ∧
      (k' ≤ other.intelligence →
        IsLeast {held | (entitlementGrounds population keeper other).IsClosed held}
          {s | s ∈ entitlements population keeper other})) := by
  intro committive both base k k'
  have havowed := isStart_avowed keeper other
  have hbase := isStart_defaultEntitlements population keeper other
  have hconsequences := isRound_consequences keeper other
  have hexpand := isRound_expand population keeper other
  have hcommittive : ∀ i, (commitmentGrounds keeper other).licensed i → i ∈ committive :=
    fun _ hi => hi
  have hboth : ∀ i, (entitlementGrounds population keeper other).licensed i → i ∈ both :=
    fun _ hi => mem_inferences_of_licensed hi
  refine ⟨⟨?_, fun hk => ?_⟩, ?_, fun hk => ?_⟩
  · exact Grounds.fixedPointCalls_le havowed hconsequences hcommittive keeper.intelligence
  · exact Grounds.isLeast_fixedPoint havowed hconsequences hcommittive hk
  · exact Grounds.fixedPointCalls_le hbase hexpand hboth other.intelligence
  · exact Grounds.isLeast_fixedPoint hbase hexpand hboth hk

end Discourse
