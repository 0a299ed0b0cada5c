import Discourse.Closure
import Discourse.Proofs.OrderedSet.Equality
import Mathlib.Logic.Function.Iterate

/-!
# Repetition without an early stop

`settle` stops before a round that changes nothing, and it compares by `==`, which may overlook
something: for sets, the order of the members. Nothing is lost by the stop. Where a round takes
what is alike to what is alike, a round that changes nothing is followed only by rounds that
change nothing, so the result is like the one after all rounds of the budget.

* `settle_related`: the result, up to any equivalence that contains `==` and is kept by a round.
* `mem_settle`: for sets, the same members as after all rounds.
* `fixedPoint_induction`: what a round keeps holds of the result.
-/

namespace Discourse

universe u

section Alike

variable {σ : Type u} {R : σ → σ → Prop}

/-- Once a round takes something to what is like it, so do all later ones. -/
theorem related_iterate {step : σ → σ} (hR : Equivalence R)
    (hstep : ∀ s t, R s t → R (step s) (step t)) {s : σ} (h : R (step s) s) (n : Nat) :
    R s (step^[n] s) := by
  induction n with
  | zero => exact hR.refl s
  | succ n ih =>
    rw [Function.iterate_succ_apply']
    exact hR.trans (hR.symm h) (hstep _ _ ih)

theorem settle_related [BEq σ] {step : σ → σ} (hR : Equivalence R)
    (hbeq : ∀ s t, (s == t) = true → R s t) (hstep : ∀ s t, R s t → R (step s) (step t))
    (n : Nat) (s : σ) : R (settle step n s) (step^[n] s) := by
  induction n generalizing s with
  | zero => exact hR.refl s
  | succ n ih =>
    unfold settle
    split
    · rename_i h
      exact related_iterate hR hstep (hbeq _ _ h) (n + 1)
    · exact ih (step s)

end Alike

/-! ## What a round keeps -/

/-- What holds at the start and is kept by a round holds of the result. -/
theorem fixedPoint_induction {σ : Type u} [BEq σ] {p : σ → Prop} {step : σ → σ}
    (hstep : ∀ s, p s → p (step s)) {start : σ} (h : p start) (budget : Int) :
    p (fixedPoint step budget start) := by
  have hsettle : ∀ (n : Nat) (s : σ), p s → p (settle step n s) := by
    intro n
    induction n with
    | zero => exact fun _ hs => hs
    | succ n ih =>
      intro s hs
      unfold settle
      split
      · exact hs
      · exact ih (step s) (hstep s hs)
  exact hsettle budget.toNat start h

/-! ## Sets -/

section Sets

variable {α : Type u} [BEq α] [EquivBEq α]

theorem mem_settle {step : OrderedSet α → OrderedSet α}
    (hstep : ∀ s t, (∀ a, a ∈ s ↔ a ∈ t) → ∀ a, a ∈ step s ↔ a ∈ step t)
    (n : Nat) (s : OrderedSet α) (a : α) : a ∈ settle step n s ↔ a ∈ step^[n] s := by
  have hR : Equivalence fun s t : OrderedSet α => ∀ a, a ∈ s ↔ a ∈ t :=
    ⟨fun _ _ => Iff.rfl, fun h a => (h a).symm, fun h₁ h₂ a => (h₁ a).trans (h₂ a)⟩
  exact settle_related hR (fun _ _ => OrderedSet.beq_iff.mp) hstep n s a

theorem mem_fixedPoint {step : OrderedSet α → OrderedSet α}
    (hstep : ∀ s t, (∀ a, a ∈ s ↔ a ∈ t) → ∀ a, a ∈ step s ↔ a ∈ step t)
    (n : Nat) (s : OrderedSet α) (a : α) : a ∈ fixedPoint step n s ↔ a ∈ step^[n] s := by
  rw [fixedPoint, Int.toNat_natCast]
  exact mem_settle hstep n s a

end Sets

end Discourse
