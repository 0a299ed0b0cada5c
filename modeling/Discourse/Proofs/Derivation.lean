import Discourse.Proofs.Closure.Rounds
import Mathlib.Logic.Function.Iterate

/-!
# Derivations

A derivation shows how a sentence follows: its leaves are sentences to start from, and each inner
node is the conclusion of an inference above one subtree for each premise. What may stand at the
leaves, which inferences may be used and which sentences may occur at all are the grounds of the
reasoning. Bounded forward chaining finds exactly what has a derivation of bounded height.

* `Derivation`, with `conclusion` and `height`.
* `Grounds` and `Derivation.IsValid`: the trees that the grounds allow.
* `Grounds.Derives.weaken`: grounds that allow more derive more.
* `Grounds.IsStart` and `Grounds.IsRound`: the first set, and what a round has to add.
* `mem_iterate_iff`: the members after `n` rounds are the conclusions of trees of height at most
  `n`.
-/

namespace Discourse

open OrderedSet

/-- A tree of sentences: one to start from, or a conclusion above the derivations of the
premises. -/
inductive Derivation where
  | leaf (s : Sentence)
  | node (rule : Inference) (subtrees : List Derivation)

namespace Derivation

/-- The sentence that is derived. -/
def conclusion : Derivation → Sentence
  | leaf s => s
  | node rule _ => rule.conclusion

mutual

/-- How many inferences stand above one another. An inference without premises counts too. -/
def height : Derivation → Nat
  | leaf _ => 0
  | node _ subtrees => greatestHeight subtrees + 1

/-- The height of the highest tree. -/
def greatestHeight : List Derivation → Nat
  | [] => 0
  | t :: ts => max (height t) (greatestHeight ts)

end

theorem greatestHeight_le_iff {ts : List Derivation} {n : Nat} :
    greatestHeight ts ≤ n ↔ ∀ t ∈ ts, t.height ≤ n := by
  induction ts with
  | nil => simp [greatestHeight]
  | cons t ts ih =>
    rw [greatestHeight, Nat.max_le, ih, List.forall_mem_cons]

theorem height_node_le_iff {rule : Inference} {ts : List Derivation} {n : Nat} :
    (node rule ts).height ≤ n + 1 ↔ ∀ t ∈ ts, t.height ≤ n := by
  rw [height, Nat.add_le_add_iff_right, greatestHeight_le_iff]

end Derivation

/-! ## Grounds -/

/-- What derivations may be made of. -/
structure Grounds where
  /-- The sentences that may be a leaf. -/
  start : Sentence → Prop
  /-- The inferences that may be used. -/
  licensed : Inference → Prop
  /-- The sentences that may occur. -/
  admissible : Sentence → Prop

/-- The derivations that the grounds allow. Each premise has one subtree, in their order. -/
inductive Derivation.IsValid (g : Grounds) : Derivation → Prop where
  | leaf {s : Sentence} : g.start s → g.admissible s → IsValid g (leaf s)
  | node {rule : Inference} {subtrees : List Derivation} :
      g.licensed rule → g.admissible rule.conclusion →
      subtrees.map conclusion = rule.premises.toList → (∀ t ∈ subtrees, IsValid g t) →
      IsValid g (node rule subtrees)

namespace Grounds

variable {g : Grounds}

/-- The sentence is the conclusion of a derivation of height at most `n`. -/
def Derives (g : Grounds) (n : Nat) (s : Sentence) : Prop :=
  ∃ t : Derivation, t.IsValid g ∧ t.conclusion = s ∧ t.height ≤ n

theorem Derives.admissible {n : Nat} {s : Sentence} (h : g.Derives n s) : g.admissible s := by
  obtain ⟨t, ht, rfl, -⟩ := h
  cases ht with
  | leaf _ ha => exact ha
  | node _ ha _ _ => exact ha

theorem Derives.mono {m n : Nat} {s : Sentence} (hmn : m ≤ n) (h : g.Derives m s) :
    g.Derives n s := by
  obtain ⟨t, ht, hs, hh⟩ := h
  exact ⟨t, ht, hs, Nat.le_trans hh hmn⟩

theorem derives_zero_iff {s : Sentence} : g.Derives 0 s ↔ g.start s ∧ g.admissible s := by
  constructor
  · rintro ⟨t, ht, rfl, hh⟩
    cases ht with
    | leaf hs ha => exact ⟨hs, ha⟩
    | node => simp [Derivation.height] at hh
  · rintro ⟨hs, ha⟩
    exact ⟨.leaf s, .leaf hs ha, rfl, Nat.le_refl 0⟩

/-- Derivations of all the premises, side by side. -/
theorem exists_subtrees {n : Nat} {premises : List Sentence}
    (h : ∀ p ∈ premises, g.Derives n p) :
    ∃ ts : List Derivation, ts.map Derivation.conclusion = premises ∧
      ∀ t ∈ ts, t.IsValid g ∧ t.height ≤ n := by
  induction premises with
  | nil => exact ⟨[], rfl, by simp⟩
  | cons p premises ih =>
    obtain ⟨t, ht, hp, hh⟩ := h p List.mem_cons_self
    obtain ⟨ts, hts, hall⟩ := ih fun q hq => h q (List.mem_cons_of_mem p hq)
    refine ⟨t :: ts, by rw [List.map_cons, hp, hts], ?_⟩
    rintro u (_ | ⟨_, hu⟩)
    · exact ⟨ht, hh⟩
    · exact hall u hu

/-- A derivation of one more level: none, or an inference from what has a derivation. -/
theorem derives_succ_iff {n : Nat} {s : Sentence} :
    g.Derives (n + 1) s ↔ g.Derives n s ∨ g.admissible s ∧
      ∃ rule, g.licensed rule ∧ (∀ p ∈ rule.premises.toList, g.Derives n p) ∧
        rule.conclusion = s := by
  constructor
  · rintro ⟨t, ht, rfl, hh⟩
    cases ht with
    | leaf hs ha => exact Or.inl (Derives.mono (Nat.zero_le n) (derives_zero_iff.mpr ⟨hs, ha⟩))
    | @node rule ts hr ha hp hts =>
      refine Or.inr ⟨ha, rule, hr, fun p hmem => ?_, rfl⟩
      rw [← hp] at hmem
      obtain ⟨t, ht, he⟩ := List.mem_map.mp hmem
      exact ⟨t, hts t ht, he, Derivation.height_node_le_iff.mp hh t ht⟩
  · rintro (h | ⟨ha, rule, hr, hp, rfl⟩)
    · exact h.mono (Nat.le_succ n)
    · obtain ⟨ts, hts, hall⟩ := exists_subtrees hp
      refine ⟨.node rule ts, .node hr ha hts fun t ht => (hall t ht).1, rfl, ?_⟩
      exact Derivation.height_node_le_iff.mpr fun t ht => (hall t ht).2

/-- Grounds that allow more derive more. -/
theorem Derives.weaken {g' : Grounds} (hstart : ∀ s, g.start s → g'.start s)
    (hlicensed : ∀ i, g.licensed i → g'.licensed i)
    (hadmissible : ∀ s, g.admissible s → g'.admissible s) {n : Nat} {s : Sentence}
    (h : g.Derives n s) : g'.Derives n s := by
  induction n generalizing s with
  | zero =>
    obtain ⟨hs, ha⟩ := derives_zero_iff.mp h
    exact derives_zero_iff.mpr ⟨hstart s hs, hadmissible s ha⟩
  | succ n ih =>
    rcases derives_succ_iff.mp h with h | ⟨ha, i, hi, hp, he⟩
    · exact (ih h).mono (Nat.le_succ n)
    · exact derives_succ_iff.mpr
        (Or.inr ⟨hadmissible s ha, i, hlicensed i hi, fun p hmem => ih (hp p hmem), he⟩)

/-! ## Rounds -/

/-- The first set has the admissible sentences to start from. -/
def IsStart (g : Grounds) (start : OrderedSet Sentence) : Prop :=
  ∀ s, s ∈ start ↔ g.start s ∧ g.admissible s

/-- A round adds, to a set of admissible sentences, the admissible conclusions of the licensed
inferences that fire. -/
def IsRound (g : Grounds) (step : OrderedSet Sentence → OrderedSet Sentence) : Prop :=
  ∀ known : OrderedSet Sentence, (∀ x ∈ known, g.admissible x) → ∀ s, s ∈ step known ↔
    s ∈ known ∨ g.admissible s ∧
      ∃ rule, g.licensed rule ∧ rule.fires known = true ∧ rule.conclusion = s

/-- Forward chaining in `n` rounds finds what has a derivation of height at most `n`. -/
theorem mem_iterate_iff {start : OrderedSet Sentence}
    {step : OrderedSet Sentence → OrderedSet Sentence} (hstart : g.IsStart start)
    (hstep : g.IsRound step) (n : Nat) (s : Sentence) : s ∈ step^[n] start ↔ g.Derives n s := by
  induction n generalizing s with
  | zero => exact (hstart s).trans derives_zero_iff.symm
  | succ n ih =>
    have hadm : ∀ x ∈ step^[n] start, g.admissible x := fun x hx => ((ih x).mp hx).admissible
    rw [Function.iterate_succ_apply', hstep _ hadm, derives_succ_iff]
    simp only [Inference.fires_iff, ih, mem_iff_mem_toList (s := Inference.premises _)]

end Grounds

end Discourse
