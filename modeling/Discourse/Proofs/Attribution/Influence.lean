import Discourse.Attribution
import Mathlib.Data.List.Forall2

/-!
# What a score depends on

The score that one agent keeps on another is made from the keeper's rules and depth, the other's
sentences and depth, and what everybody has avowed and challenged. Nobody else's rules count, not
even the other's own, and nobody else's depth.

* `Agent.Reconfigured`: agents that differ in rules and depth only.
* `pool_of_reconfigured`: the pool does not depend on rules or depths.
* `score_of_reconfigured`: a score depends on no rules but the keeper's, and on no depths but those
  of the two.
* `Score.held`, `held_score_congr`: commitments and incompatibles depend on the keeper's rules and
  depth and on what the other has avowed, and on nothing else.
-/

namespace Discourse

/-- The agents differ in rules and depth only. -/
def Agent.Reconfigured (a b : Agent) : Prop :=
  ∃ rules intelligence, b = { a with rules, intelligence }

theorem Agent.Reconfigured.refl (a : Agent) : a.Reconfigured a := ⟨a.rules, a.intelligence, rfl⟩

variable {as bs : List Agent} {a b : Agent}

theorem challengedSentences_of_reconfigured (h : List.Forall₂ Agent.Reconfigured as bs)
    (hab : a.Reconfigured b) : challengedSentences bs b = challengedSentences as a := by
  obtain ⟨rules, intelligence, rfl⟩ := hab
  refine (List.rel_foldl (P := Eq) ?_ rfl h).symm
  rintro found _ rfl c _ ⟨_, _, rfl⟩
  rfl

theorem pool_of_reconfigured (h : List.Forall₂ Agent.Reconfigured as bs) : pool bs = pool as := by
  have hone : ∀ a b, a.Reconfigured b →
      unchallengedAssertions bs b = unchallengedAssertions as a := by
    intro a b hab
    have havowed : b.avowed = a.avowed := by
      obtain ⟨_, _, rfl⟩ := hab
      rfl
    rw [unchallengedAssertions, havowed, challengedSentences_of_reconfigured h hab]
    rfl
  refine (List.rel_foldl (P := Eq) ?_ rfl h).symm
  rintro found _ rfl a b hab
  exact congrArg (found ∪ ·) (hone a b hab).symm

/-- Whatever others change in their rules and depths, and whatever the one who is scored changes in
its rules, the score stays. -/
theorem score_of_reconfigured (h : List.Forall₂ Agent.Reconfigured as bs) (keeper other : Agent)
    (rules : RuleBook) : score bs keeper { other with rules } = score as keeper other := by
  have hentitled : entitlements bs keeper { other with rules } = entitlements as keeper other := by
    rw [entitlements, defaultEntitlements, pool_of_reconfigured h]
    rfl
  rw [score, hentitled]
  rfl

/-- What the score says of commitments, and which incompatibilities the other is wholly committed
to. -/
def Score.held (s : Score) : List Sentence × List (List Sentence) :=
  (s.commitments, s.incompatibles)

theorem held_score_congr {keeper keeper' other other' : Agent}
    (hrules : keeper'.rules = keeper.rules) (hdepth : keeper'.intelligence = keeper.intelligence)
    (havowed : other'.avowed = other.avowed) :
    (score bs keeper' other').held = (score as keeper other).held := by
  have hcommitted : commitments keeper' other' = commitments keeper other := by
    rw [commitments, commitments, hrules, hdepth, havowed]
  have hincompatible : incompatibles keeper' other' = incompatibles keeper other := by
    rw [incompatibles, incompatibles, hcommitted, hrules]
  rw [Score.held, score, hcommitted, hincompatible]
  rfl

end Discourse
