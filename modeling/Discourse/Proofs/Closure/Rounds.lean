import Discourse.Closure
import Discourse.Proofs.OrderedSet.Membership
import Mathlib.Tactic.ByContra
import Mathlib.Tactic.Tauto

/-!
# What one round adds

The members of the sets that a round of commitment or of entitlement makes, said through the
rules alone.

* `Admissible`: a sentence completes no incompatibility; `isCompatible_iff`: this is what the
  pruning decides.
* `Licensed`: the inferences that carry entitlement; a permissive one only from premises that are
  committed as well.
* `mem_consequences`, `mem_removeIncompatible`, `mem_expand`: the members after a round.
* `mem_expand_of_admissible`: on sets that are pruned already, a round of entitlement only adds.
-/

namespace Discourse

open OrderedSet

/-! ## Inferences -/

theorem Inference.fires_iff {i : Inference} {basis : OrderedSet Sentence} :
    i.fires basis = true ↔ ∀ p ∈ i.premises, p ∈ basis :=
  isSubset_iff

/-- Some rule leads from the basis to the sentence. -/
def Follows (rules : OrderedSet Inference) (basis : OrderedSet Sentence) (s : Sentence) : Prop :=
  ∃ i ∈ rules.toList, i.fires basis = true ∧ i.conclusion = s

theorem Follows.congr {rules : OrderedSet Inference} {basis basis' : OrderedSet Sentence}
    (h : ∀ a, a ∈ basis ↔ a ∈ basis') (s : Sentence) :
    Follows rules basis s ↔ Follows rules basis' s := by
  simp only [Follows, Inference.fires_iff, h]

theorem mem_consequences {rules : OrderedSet Inference} {basis : OrderedSet Sentence}
    {s : Sentence} : s ∈ consequences rules basis ↔ s ∈ basis ∨ Follows rules basis s := by
  rw [consequences, mem_union, mem_ofList]
  simp only [List.mem_map, List.mem_filter, beq_iff_eq, exists_eq_right, Follows, and_assoc]

/-! ## Incompatibilities -/

/-- No incompatibility that the sentence belongs to lies within the commitments and the sentence:
the sentence completes none. -/
def Admissible (incompatibilities : OrderedSet Incompatibility)
    (commitments : OrderedSet Sentence) (s : Sentence) : Prop :=
  ∀ i ∈ incompatibilities.toList, s ∈ i → ¬ ∀ x ∈ i, x ∈ commitments ∨ x = s

/-- A set that held with the sentence holds without it unless the sentence is one of its own. -/
theorem completes_iff {i : Incompatibility} {commitments : OrderedSet Sentence} {s : Sentence} :
    (i.isSubset (commitments.insert s) && !i.isSubset ((commitments.insert s).erase s)) = true ↔
      s ∈ i ∧ ∀ x ∈ i, x ∈ commitments ∨ x = s := by
  rw [Bool.and_eq_true, Bool.not_eq_true', ← Bool.not_eq_true, isSubset_iff, isSubset_iff]
  simp only [mem_insert, mem_erase, beq_iff_eq, beq_eq_false_iff_ne]
  constructor
  · rintro ⟨hin, hout⟩
    refine ⟨?_, fun x hx => (hin x hx).imp_right Eq.symm⟩
    by_contra hs
    apply hout
    intro x hx
    exact ⟨hin x hx, fun he => hs (he ▸ hx)⟩
  · rintro ⟨hs, hin⟩
    exact ⟨fun x hx => (hin x hx).imp_right Eq.symm, fun hout => (hout s hs).2 rfl⟩

theorem isCompatible_iff {incompatibilities : OrderedSet Incompatibility}
    {commitments : OrderedSet Sentence} {s : Sentence} :
    isCompatible incompatibilities commitments s = true ↔
      Admissible incompatibilities commitments s := by
  rw [isCompatible, Bool.not_eq_true', List.any_eq_false]
  simp only [completes_iff, not_and, Admissible]

theorem mem_removeIncompatible {incompatibilities : OrderedSet Incompatibility}
    {commitments : OrderedSet Sentence} {candidates : List Sentence} {s : Sentence} :
    s ∈ removeIncompatible incompatibilities commitments candidates ↔
      s ∈ candidates ∧ Admissible incompatibilities commitments s := by
  simp [removeIncompatible, isCompatible_iff]

theorem mem_compatibleConsequences {rules : OrderedSet Inference}
    {incompatibilities : OrderedSet Incompatibility} {commitments basis : OrderedSet Sentence}
    {s : Sentence} :
    s ∈ compatibleConsequences rules incompatibilities commitments basis ↔
      (s ∈ basis ∨ Follows rules basis s) ∧ Admissible incompatibilities commitments s := by
  rw [compatibleConsequences, mem_removeIncompatible, ← mem_iff_mem_toList, mem_consequences]

/-! ## Rounds of entitlement -/

theorem mem_expand {rules : RuleBook} {commitments entitlements : OrderedSet Sentence}
    {s : Sentence} :
    s ∈ expand rules commitments entitlements ↔
      (s ∈ entitlements ∨ Follows rules.committive entitlements s ∨
          Follows rules.permissive (entitlements ∩ commitments) s) ∧
        Admissible rules.incompatibilities commitments s := by
  rw [expand, mem_union, mem_compatibleConsequences, mem_compatibleConsequences, mem_inter]
  tauto

/-- An inference by which entitlement passes on: a committive one, or a permissive one whose
premises are all committed. -/
def Licensed (rules : RuleBook) (commitments : OrderedSet Sentence) (i : Inference) : Prop :=
  i ∈ rules.committive.toList ∨
    i ∈ rules.permissive.toList ∧ ∀ p ∈ i.premises, p ∈ commitments

theorem exists_licensed_iff {rules : RuleBook} {commitments entitlements : OrderedSet Sentence}
    {s : Sentence} :
    (∃ i, Licensed rules commitments i ∧ i.fires entitlements = true ∧ i.conclusion = s) ↔
      Follows rules.committive entitlements s ∨
        Follows rules.permissive (entitlements ∩ commitments) s := by
  simp only [Follows, Licensed, Inference.fires_iff, mem_inter]
  constructor
  · rintro ⟨i, hi | ⟨hi, hc⟩, hp, he⟩
    · exact Or.inl ⟨i, hi, hp, he⟩
    · exact Or.inr ⟨i, hi, fun p h => ⟨hp p h, hc p h⟩, he⟩
  · rintro (⟨i, hi, hp, he⟩ | ⟨i, hi, hp, he⟩)
    · exact ⟨i, Or.inl hi, hp, he⟩
    · exact ⟨i, Or.inr ⟨hi, fun p h => (hp p h).2⟩, fun p h => (hp p h).1, he⟩

/-- What is pruned already loses nothing more, so the round only adds. -/
theorem mem_expand_of_admissible {rules : RuleBook}
    {commitments entitlements : OrderedSet Sentence}
    (h : ∀ x ∈ entitlements, Admissible rules.incompatibilities commitments x) {s : Sentence} :
    s ∈ expand rules commitments entitlements ↔
      s ∈ entitlements ∨ Admissible rules.incompatibilities commitments s ∧
        ∃ i, Licensed rules commitments i ∧ i.fires entitlements = true ∧ i.conclusion = s := by
  rw [mem_expand, exists_licensed_iff]
  constructor
  · rintro ⟨hs | hf, ha⟩
    · exact Or.inl hs
    · exact Or.inr ⟨ha, hf⟩
  · rintro (hs | ⟨ha, hf⟩)
    · exact ⟨Or.inl hs, h s hs⟩
    · exact ⟨Or.inr hf, ha⟩

end Discourse
