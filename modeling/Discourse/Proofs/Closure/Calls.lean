import Discourse.Proofs.Closure.Repetition
import Mathlib.Data.Nat.Find
import Mathlib.Order.Bounds.Basic

/-!
# The rounds that are made

Rounds are repeated until one changes nothing or the budget is used up. So what comes out is just
what comes out of a number of rounds without any test, and the rounds that were made are counted by
the first one that changes nothing.

* `StillAt`: the round after a number of others changes nothing.
* `settle_of_changes`, `settle_of_stillAt`: the result and the count, whether or not there is such
  a round within the budget.
* `settleM`, `run_settleM_noting`: the same repetition of a round that leaves notes, and the notes.
* `fixedPoint_iterates`: for sets, the rounds of the whole budget.
-/

namespace Discourse

universe u

section Rounds

variable {σ : Type u} [BEq σ] {step : σ → σ} {s : σ} {j n : Nat}

/-! ## The first round that changes nothing -/

/-- After `j` rounds a further one changes nothing. -/
def StillAt (step : σ → σ) (s : σ) (j : Nat) : Prop := (step^[j + 1] s == step^[j] s) = true

theorem stillAt_succ : StillAt step s (j + 1) ↔ StillAt step (step s) j := Iff.rfl

/-- While every round changes something, all rounds of the budget are made. -/
theorem settle_of_changes (h : ∀ j < n, ¬ StillAt step s j) :
    settle step n s = step^[n] s ∧ settleCalls step n s = n := by
  induction n generalizing s with
  | zero => exact ⟨rfl, rfl⟩
  | succ n ih =>
    have hfirst : ¬ (step s == s) = true := h 0 n.succ_pos
    have hlater : ∀ j < n, ¬ StillAt step (step s) j := by
      intro j hj
      exact h (j + 1) (by omega)
    obtain ⟨hresult, hcalls⟩ := ih hlater
    rw [settle, settleCalls, if_neg hfirst, if_neg hfirst, hresult, hcalls]
    exact ⟨rfl, rfl⟩

/-- The first round that changes nothing is the last one made, and it counts. -/
theorem settle_of_stillAt (hj : j < n) (hstill : StillAt step s j)
    (hbefore : ∀ i < j, ¬ StillAt step s i) :
    settle step n s = step^[j] s ∧ settleCalls step n s = j + 1 := by
  obtain ⟨n, rfl⟩ : ∃ m, n = m + 1 := ⟨n - 1, by omega⟩
  rw [settle, settleCalls]
  induction j generalizing s n with
  | zero =>
    have hfirst : (step s == s) = true := hstill
    rw [if_pos hfirst, if_pos hfirst]
    exact ⟨rfl, rfl⟩
  | succ j ih =>
    have hfirst : ¬ (step s == s) = true := hbefore 0 j.succ_pos
    have hlater : ∀ i < j, ¬ StillAt step (step s) i := by
      intro i hi
      exact hbefore (i + 1) (by omega)
    obtain ⟨n, rfl⟩ : ∃ m, n = m + 1 := ⟨n - 1, by omega⟩
    obtain ⟨hresult, hcalls⟩ := ih (stillAt_succ.mp hstill) hlater n (by omega)
    rw [if_neg hfirst, if_neg hfirst, settle, settleCalls, hresult, hcalls]
    exact ⟨rfl, rfl⟩

/-- Either every round of the budget changes something, or there is a first one that does not. -/
theorem changes_or_exists_stillAt (step : σ → σ) (s : σ) (n : Nat) :
    (∀ j < n, ¬ StillAt step s j) ∨
      ∃ j < n, StillAt step s j ∧ ∀ i < j, ¬ StillAt step s i := by
  classical
  by_cases h : ∃ j < n, StillAt step s j
  · obtain ⟨j, hj, hstill⟩ := h
    have hex : ∃ j, StillAt step s j := ⟨j, hstill⟩
    right
    refine ⟨Nat.find hex, ?_, Nat.find_spec hex, fun i hi => Nat.find_min hex hi⟩
    exact (Nat.find_min' hex hstill).trans_lt hj
  · left
    intro j hj hstill
    exact h ⟨j, hj, hstill⟩

theorem settleCalls_of_isLeast (hj : IsLeast {j | StillAt step s j} j) (n : Nat) :
    settleCalls step n s = min n (j + 1) := by
  have hbefore : ∀ i < j, ¬ StillAt step s i := by
    intro i hi hstill
    exact absurd (hj.2 hstill) (Nat.not_le.mpr hi)
  by_cases hn : j < n
  · rw [(settle_of_stillAt hn hj.1 hbefore).2]
    omega
  · have hchanges : ∀ i < n, ¬ StillAt step s i := fun i hi => hbefore i (by omega)
    rw [(settle_of_changes hchanges).2]
    omega

/-- Where rounds are left over the last one made has changed nothing. -/
theorem settle_still (h : settleCalls step n s < n) :
    (step (settle step n s) == settle step n s) = true := by
  rcases changes_or_exists_stillAt step s n with hchanges | ⟨j, hj, hstill, hbefore⟩
  · have hall := (settle_of_changes hchanges).2
    omega
  · rw [(settle_of_stillAt hj hstill hbefore).1, ← Function.iterate_succ_apply' step j s]
    exact hstill

/-! ## Rounds that leave notes -/

/-- Repeats a step that has effects, and stops before one that changes nothing. -/
def settleM {m : Type u → Type u} [Monad m] (step : σ → m σ) : Nat → σ → m σ
  | 0, s => pure s
  | n + 1, s => do
    let next ← step s
    if next == s then pure s else settleM step n next

/-- The step, with a note of what it is applied to. -/
def noting (step : σ → σ) (s : σ) : StateM (List σ) σ := do
  modify (· ++ [s])
  return step s

/-- The notes are of the rounds that are counted, each applied to what the ones before it gave. -/
theorem run_settleM_noting (step : σ → σ) (n : Nat) (s : σ) (notes : List σ) :
    (settleM (noting step) n s).run notes =
      (settle step n s, notes ++ (List.range (settleCalls step n s)).map (step^[·] s)) := by
  induction n generalizing s notes with
  | zero =>
    rw [settle, settleCalls, List.range_zero, List.map_nil, List.append_nil]
    rfl
  | succ n ih =>
    have hstep : (settleM (noting step) (n + 1) s).run notes =
        if step s == s then (s, notes ++ [s])
        else (settleM (noting step) n (step s)).run (notes ++ [s]) := by
      rw [settleM]
      show (if step s == s then pure s else settleM (noting step) n (step s)).run (notes ++ [s]) = _
      split <;> rfl
    rw [hstep, settle, settleCalls]
    split
    · rfl
    · rw [ih, List.range_succ_eq_map, List.map_cons, List.map_map, List.append_assoc]
      rfl

end Rounds

/-! ## Sets -/

section Sets

variable {α : Type u} [BEq α] [EquivBEq α] {step : OrderedSet α → OrderedSet α}

/-- When equal sets lead to equal sets, the result is the set that all rounds of the budget lead
to; a negative budget is none. As many rounds are made as the budget has, or up to the first one
that changes nothing, and where some of the budget is left the result is one that a round does not
change. -/
theorem fixedPoint_iterates (hstep : ∀ s t, (s == t) = true → (step s == step t) = true)
    (budget : Int) (start : OrderedSet α) :
    (fixedPoint step budget start == step^[budget.toNat] start) = true ∧
      (∀ j, IsLeast {j | StillAt step start j} j →
        fixedPointCalls step budget start = min budget.toNat (j + 1)) ∧
      ((∀ j, ¬ StillAt step start j) → fixedPointCalls step budget start = budget.toNat) ∧
      (fixedPointCalls step budget start < budget.toNat →
        (step (fixedPoint step budget start) == fixedPoint step budget start) = true) ∧
      (settleM (noting step) budget.toNat start).run [] =
        (fixedPoint step budget start,
          (List.range (fixedPointCalls step budget start)).map (step^[·] start)) := by
  refine ⟨?_, ?_, ?_, ?_, ?_⟩
  · have hequal : Equivalence fun s t : OrderedSet α => (s == t) = true :=
      ⟨fun _ => BEq.rfl, BEq.symm, BEq.trans⟩
    exact settle_related hequal (fun _ _ h => h) hstep budget.toNat start
  · intro j hj
    exact settleCalls_of_isLeast hj budget.toNat
  · intro hchanges
    exact (settle_of_changes fun j _ => hchanges j).2
  · exact settle_still
  · exact run_settleM_noting step budget.toNat start []

/-- A round that only changes the order of the members is the last one, and the order from before
it stays. -/
theorem fixedPoint_iterates_reordering :
    let step : OrderedSet Sentence → OrderedSet Sentence := fun s => .ofList ["q"] ∪ s
    let start : OrderedSet Sentence := .ofList ["p", "q"]
    (∀ s t, (s == t) = true → (step s == step t) = true) ∧
      (fixedPoint step 5 start == step^[5] start) = true ∧ fixedPointCalls step 5 start = 1 ∧
      (fixedPoint step 5 start).toList = ["p", "q"] ∧ (step^[5] start).toList = ["q", "p"] := by
  intro step start
  have hstep : ∀ s t, (s == t) = true → (step s == step t) = true := by
    intro s t h
    rw [OrderedSet.beq_iff] at h ⊢
    intro a
    rw [OrderedSet.mem_union, OrderedSet.mem_union, h a]
  have hleast : IsLeast {j | StillAt step start j} 0 := by
    refine ⟨?_, fun j _ => j.zero_le⟩
    show (step start == start) = true
    decide
  obtain ⟨hresult, hcalls, -⟩ := fixedPoint_iterates hstep 5 start
  exact ⟨hstep, hresult, hcalls 0 hleast, by decide, by decide⟩

end Sets

end Discourse
