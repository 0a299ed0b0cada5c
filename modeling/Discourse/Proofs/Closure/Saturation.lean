import Discourse.Proofs.Closure.Repetition
import Discourse.Proofs.Derivation
import Mathlib.Order.Bounds.Basic

/-!
# Saturation

Every round of forward chaining but the last one finds a conclusion that was not known before. So
the rounds are counted by the conclusions that are outstanding, whatever the budget is, and a
budget of as many rounds is enough for all of them.

* `settleCalls_le_min`, `settle_settled`: repetition under a measure that each round lowers.
* `outstanding`: the distinct conclusions of some inferences that are not known.
* `Grounds.IsClosed`: the sets that reasoning cannot leave.
* `Grounds.fixedPointCalls_le`: how many rounds are made.
* `Grounds.isLeast_fixedPoint`: with enough rounds, the least closed set.
-/

namespace Discourse

open OrderedSet

universe u

/-! ## Repetition under a measure -/

section Measure

variable {σ : Type u} [BEq σ] {p : σ → Prop} {m : σ → Nat} {step : σ → σ}

/-- Each call but the last one lowers the measure. -/
theorem settleCalls_le_min (hp : ∀ s, p s → p (step s))
    (hm : ∀ s, p s → (step s == s) = false → m (step s) < m s) (n : Nat) {s : σ} (hs : p s) :
    settleCalls step n s ≤ min n (m s + 1) := by
  induction n generalizing s with
  | zero => exact Nat.zero_le _
  | succ n ih =>
    unfold settleCalls
    cases h : step s == s with
    | true =>
      rw [if_pos rfl]
      omega
    | false =>
      have hlower := hm s hs h
      have hrest := ih (hp s hs)
      rw [if_neg Bool.false_ne_true]
      omega

/-- A budget of the measure is enough to end where a further round changes nothing. -/
theorem settle_settled (hp : ∀ s, p s → p (step s))
    (hm : ∀ s, p s → (step s == s) = false → m (step s) < m s) {n : Nat} {s : σ} (hs : p s)
    (hn : m s ≤ n) : (step (settle step n s) == settle step n s) = true := by
  induction n generalizing s with
  | zero =>
    cases h : step s == s with
    | true => exact h
    | false =>
      have hlower := hm s hs h
      omega
  | succ n ih =>
    unfold settle
    cases h : step s == s with
    | true =>
      rw [if_pos rfl]
      exact h
    | false =>
      have hlower := hm s hs h
      rw [if_neg Bool.false_ne_true]
      exact ih (hp s hs) (by omega)

end Measure

/-! ## Outstanding conclusions -/

/-- The distinct conclusions of the inferences that are not known. -/
def outstanding (rules : List Inference) (known : OrderedSet Sentence) : OrderedSet Sentence :=
  .ofList (rules.map Inference.conclusion) \ known

theorem mem_outstanding {rules : List Inference} {known : OrderedSet Sentence} {s : Sentence} :
    s ∈ outstanding rules known ↔ (∃ i ∈ rules, i.conclusion = s) ∧ s ∉ known := by
  rw [outstanding, mem_sdiff, mem_ofList]
  simp only [List.mem_map, beq_iff_eq, exists_eq_right]

/-- What is known in addition is outstanding no more. -/
theorem size_outstanding_lt {rules : List Inference} {known known' : OrderedSet Sentence}
    (hsub : ∀ x ∈ known, x ∈ known') {i : Inference} (hi : i ∈ rules)
    (hnew : i.conclusion ∉ known) (hknown : i.conclusion ∈ known') :
    (outstanding rules known').size < (outstanding rules known).size := by
  have hless : (outstanding rules known').isSubset (outstanding rules known) = true := by
    rw [isSubset_iff]
    intro x hx
    obtain ⟨hrule, hx⟩ := mem_outstanding.mp hx
    exact mem_outstanding.mpr ⟨hrule, fun h => hx (hsub x h)⟩
  have hlost : i.conclusion ∈ outstanding rules known := mem_outstanding.mpr ⟨⟨i, hi, rfl⟩, hnew⟩
  have hgone : i.conclusion ∉ outstanding rules known' :=
    fun h => (mem_outstanding.mp h).2 hknown
  by_contra hle
  have hmore := isSubset_symm_of_size_le hless (Nat.le_of_not_lt hle)
  exact hgone (isSubset_iff.mp hmore i.conclusion hlost)

/-! ## Closed sets -/

namespace Grounds

variable {g : Grounds}

/-- The set has the admissible sentences to start from, and with the premises of a licensed
inference it has the conclusion if that is admissible. -/
structure IsClosed (g : Grounds) (held : Set Sentence) : Prop where
  start : ∀ s, g.start s → g.admissible s → s ∈ held
  conclusion : ∀ i, g.licensed i → g.admissible i.conclusion → (∀ p ∈ i.premises, p ∈ held) →
    i.conclusion ∈ held

/-- What is known in the course of forward chaining: admissible sentences, those to start from
among them. -/
structure Knows (g : Grounds) (start known : OrderedSet Sentence) : Prop where
  admissible : ∀ x ∈ known, g.admissible x
  start : ∀ x ∈ start, x ∈ known

section Rounds

variable {start known : OrderedSet Sentence}
  {step : OrderedSet Sentence → OrderedSet Sentence} {rules : List Inference}

theorem knows_start (hstart : g.IsStart start) : g.Knows start start :=
  ⟨fun x hx => ((hstart x).mp hx).2, fun _ hx => hx⟩

theorem Knows.round (hstep : g.IsRound step) (h : g.Knows start known) :
    g.Knows start (step known) := by
  constructor
  · intro x hx
    rcases (hstep known h.admissible x).mp hx with hx | ⟨ha, -⟩
    · exact h.admissible x hx
    · exact ha
  · intro x hx
    exact (hstep known h.admissible x).mpr (Or.inl (h.start x hx))

/-- A round that changes something finds an outstanding conclusion. -/
theorem Knows.size_outstanding_round_lt (hstep : g.IsRound step)
    (hrules : ∀ i, g.licensed i → i ∈ rules) (h : g.Knows start known)
    (hchange : (step known == known) = false) :
    (outstanding rules (step known)).size < (outstanding rules known).size := by
  have hround := hstep known h.admissible
  have hsub : ∀ x ∈ known, x ∈ step known := fun x hx => (hround x).mpr (Or.inl hx)
  have hnew : ∃ x ∈ step known, x ∉ known := by
    by_contra hnone
    push Not at hnone
    have hsame : (step known == known) = true := beq_iff.mpr fun x => ⟨hnone x, hsub x⟩
    rw [hchange] at hsame
    cases hsame
  obtain ⟨x, hx, hfresh⟩ := hnew
  rcases (hround x).mp hx with hold | ⟨-, i, hi, -, rfl⟩
  · exact absurd hold hfresh
  · exact size_outstanding_lt hsub (hrules i hi) hfresh hx

/-- A round stays within every closed set. -/
theorem subset_round (hstep : g.IsRound step) {held : Set Sentence} (hclosed : g.IsClosed held)
    (h : g.Knows start known) (hsub : ∀ x ∈ known, x ∈ held) : ∀ x ∈ step known, x ∈ held := by
  intro x hx
  rcases (hstep known h.admissible x).mp hx with hx | ⟨ha, i, hi, hfires, rfl⟩
  · exact hsub x hx
  · refine hclosed.conclusion i hi ha fun p hp => hsub p ?_
    exact Inference.fires_iff.mp hfires p hp

/-- What a round does not change is closed. -/
theorem Knows.isClosed (hstart : g.IsStart start) (hstep : g.IsRound step)
    (h : g.Knows start known) (hsettled : (step known == known) = true) :
    g.IsClosed {s | s ∈ known} := by
  constructor
  · intro s hs ha
    exact h.start s ((hstart s).mpr ⟨hs, ha⟩)
  · intro i hi ha hp
    have hfires : i.fires known = true := Inference.fires_iff.mpr hp
    have hmem : i.conclusion ∈ step known :=
      (hstep known h.admissible i.conclusion).mpr (Or.inr ⟨ha, i, hi, hfires, rfl⟩)
    exact (beq_iff.mp hsettled i.conclusion).mp hmem

/-- There are at most as many rounds as the budget allows, and at most one more than there are
outstanding conclusions. -/
theorem fixedPointCalls_le (hstart : g.IsStart start) (hstep : g.IsRound step)
    (hrules : ∀ i, g.licensed i → i ∈ rules) (n : Nat) :
    fixedPointCalls step n start ≤ min n ((outstanding rules start).size + 1) :=
  settleCalls_le_min (m := fun known => (outstanding rules known).size)
    (fun _ h => h.round hstep)
    (fun _ h hchange => h.size_outstanding_round_lt hstep hrules hchange) n (knows_start hstart)

/-- A budget of as many rounds as there are outstanding conclusions leads to the least closed
set. -/
theorem isLeast_fixedPoint (hstart : g.IsStart start) (hstep : g.IsRound step)
    (hrules : ∀ i, g.licensed i → i ∈ rules) {n : Nat}
    (hn : (outstanding rules start).size ≤ n) :
    IsLeast {held | g.IsClosed held} {s | s ∈ fixedPoint step n start} := by
  have hbegin := knows_start hstart
  have hknows : g.Knows start (fixedPoint step n start) :=
    fixedPoint_induction (fun _ h => h.round hstep) hbegin n
  have hsettled : (step (fixedPoint step n start) == fixedPoint step n start) = true :=
    settle_settled (m := fun known => (outstanding rules known).size)
      (fun _ h => h.round hstep)
      (fun _ h hchange => h.size_outstanding_round_lt hstep hrules hchange) hbegin hn
  refine ⟨hknows.isClosed hstart hstep hsettled, ?_⟩
  intro held hclosed
  have hwithin : g.Knows start (fixedPoint step n start) ∧
      ∀ x ∈ fixedPoint step n start, x ∈ held := by
    refine fixedPoint_induction (p := fun known => g.Knows start known ∧ ∀ x ∈ known, x ∈ held)
      (fun known h => ⟨h.1.round hstep, subset_round hstep hclosed h.1 h.2⟩) ⟨hbegin, ?_⟩ n
    intro x hx
    obtain ⟨hs, ha⟩ := (hstart x).mp hx
    exact hclosed.start x hs ha
  exact hwithin.2

end Rounds

end Grounds

end Discourse
