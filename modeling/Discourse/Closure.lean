import Discourse.Inference

/-!
# Bounded closure

What follows from a set of sentences in a bounded number of rounds. A round adds the conclusions
of the rules that fire, and drops what does not sit with the commitments; rounds are repeated
until one changes nothing or the budget is used up. The budget is an agent's reasoning depth, so
with a small one the result falls short of the closure.

* `consequences`: one round of commitment.
* `isCompatible`: a sentence is ruled out only where it completes an incompatibility.
* `expand`: one round of entitlement, by rules of both kinds.
* `fixedPoint`: repeated rounds, and `fixedPointCalls`, how many were tried.
-/

namespace Discourse

/-! ## Rounds -/

/-- The basis and the conclusions of the inferences that fire on it. -/
def consequences (rules : OrderedSet Inference) (basis : OrderedSet Sentence) :
    OrderedSet Sentence :=
  basis ∪ .ofList ((rules.toList.filter (·.fires basis)).map Inference.conclusion)

/-- Whether `s` sits with the commitments. It does not when some incompatibility holds within
the commitments and `s`, and no longer holds once `s` is taken away. -/
def isCompatible (incompatibilities : OrderedSet Incompatibility)
    (commitments : OrderedSet Sentence) (s : Sentence) : Bool :=
  let everything := commitments.insert s
  let without := everything.erase s
  !incompatibilities.toList.any fun i => i.isSubset everything && !i.isSubset without

/-- The candidates that sit with the commitments. -/
def removeIncompatible (incompatibilities : OrderedSet Incompatibility)
    (commitments : OrderedSet Sentence) (candidates : List Sentence) : OrderedSet Sentence :=
  .ofList (candidates.filter (isCompatible incompatibilities commitments))

/-- One round of the rules, less what does not sit with the commitments. -/
def compatibleConsequences (rules : OrderedSet Inference)
    (incompatibilities : OrderedSet Incompatibility) (commitments : OrderedSet Sentence)
    (basis : OrderedSet Sentence) : OrderedSet Sentence :=
  removeIncompatible incompatibilities commitments (consequences rules basis).toList

/-- One round of entitlement. Committive rules carry entitlement too; permissive rules fire only
from premises that are both entitled and committed. -/
def expand (rules : RuleBook) (commitments entitlements : OrderedSet Sentence) :
    OrderedSet Sentence :=
  compatibleConsequences rules.committive rules.incompatibilities commitments entitlements ∪
    compatibleConsequences rules.permissive rules.incompatibilities commitments
      (entitlements ∩ commitments)

/-! ## Repetition -/

section Repetition

universe u

variable {σ : Type u} [BEq σ]

/-- Repeats the step at most `n` times, and stops before a step that changes nothing. -/
def settle (step : σ → σ) : Nat → σ → σ
  | 0, s => s
  | n + 1, s => if step s == s then s else settle step n (step s)

/-- How often `settle` applies the step. -/
def settleCalls (step : σ → σ) : Nat → σ → Nat
  | 0, _ => 0
  | n + 1, s => if step s == s then 1 else settleCalls step n (step s) + 1

/-- Repeats the step until it changes nothing or the budget is used up; a negative budget is
none. -/
def fixedPoint (step : σ → σ) (budget : Int) (start : σ) : σ := settle step budget.toNat start

/-- How often `fixedPoint` applies the step. -/
def fixedPointCalls (step : σ → σ) (budget : Int) (start : σ) : Nat :=
  settleCalls step budget.toNat start

end Repetition

end Discourse
