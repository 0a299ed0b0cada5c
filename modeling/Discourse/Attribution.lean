import Discourse.Agent
import Discourse.Closure

/-!
# Attribution

What one agent, the keeper, attributes to another by the keeper's own rules. Everything is
computed from the population at hand.

* `commitments`: what the other has avowed, and what follows by the keeper's committive
  inferences within the keeper's reasoning depth.
* `pool`: what anyone has avowed and has not been challenged on; everybody is entitled to it by
  default.
* `entitlements`: the part of the pool that sits with the other's commitments, and what follows
  by the keeper's rules within the other's reasoning depth.
* `incompatibles`: the keeper's incompatibilities that the other is wholly committed to.
-/

namespace Discourse

/-! ## Challenges on record -/

/-- The sentences that one agent has challenged the target on. -/
def Agent.challengedOf (a target : Agent) : List Sentence :=
  (a.challenges.toList.filter (·.target == target.id)).map Challenge.sentence

/-- The sentences that anyone in the population has challenged the target on. -/
def challengedSentences (population : List Agent) (target : Agent) : OrderedSet Sentence :=
  population.foldl (fun challenged a => challenged.insertAll (a.challengedOf target)) ∅

/-- What the target has avowed and nobody in the population has challenged. -/
def unchallengedAssertions (population : List Agent) (target : Agent) : OrderedSet Sentence :=
  target.avowed \ challengedSentences population target

/-- What anyone in the population has avowed without being challenged on it. -/
def pool (population : List Agent) : OrderedSet Sentence :=
  population.foldl (fun found a => found ∪ unchallengedAssertions population a) ∅

/-! ## What is attributed -/

/-- What the keeper takes the other to be committed to. -/
def commitments (keeper other : Agent) : OrderedSet Sentence :=
  fixedPoint (consequences keeper.rules.committive) keeper.intelligence other.avowed

/-- The incompatibilities of the keeper that the other is wholly committed to. -/
def incompatibles (keeper other : Agent) : OrderedSet Incompatibility :=
  let held := commitments keeper other
  keeper.rules.incompatibilities.filter (·.isSubset held)

/-- The part of the pool that sits with what the keeper takes the other to be committed to. -/
def defaultEntitlements (population : List Agent) (keeper other : Agent) : OrderedSet Sentence :=
  removeIncompatible keeper.rules.incompatibilities (commitments keeper other)
    (pool population).toList

/-- What the keeper takes the other to be entitled to. -/
def entitlements (population : List Agent) (keeper other : Agent) : OrderedSet Sentence :=
  fixedPoint (expand keeper.rules (commitments keeper other)) other.intelligence
    (defaultEntitlements population keeper other)

/-! ## Scores -/

/-- What one agent attributes to another. -/
structure Score where
  keeper : Text
  other : Text
  commitments : List Sentence := []
  entitlements : List Sentence := []
  incompatibles : List (List Sentence) := []
  deriving DecidableEq, Repr, Inhabited

/-- The score that the keeper keeps on the other. -/
def score (population : List Agent) (keeper other : Agent) : Score where
  keeper := keeper.name
  other := other.name
  commitments := (commitments keeper other).toList
  entitlements := (entitlements population keeper other).toList
  incompatibles := (incompatibles keeper other).toList.map OrderedSet.toList

/-- The population in the order of names, by the numbers of their code points; agents of one name in
the order of joining. -/
def byName (population : List Agent) : List Agent :=
  population.mergeSort fun a b => Text.isAtMost a.name b.name

/-- The score of every ordered pair, in the order of names. -/
def scoreAll (population : List Agent) : List Score :=
  (byName population).flatMap fun keeper =>
    (byName population).map fun other => score population keeper other

end Discourse
