import Discourse.Inference
import Discourse.Proofs.OrderedSet.Membership
import Mathlib.Data.List.Perm.Subperm

/-!
# Equality of ordered sets

Two sets are compared by their sizes and by one inclusion. The other inclusion follows, because no
two members of a set are equal: so equality of sets is having the same members, whatever their
order, and it is an equivalence again. Sets of sets, and inferences by their premises, are compared
by it in turn.

* `isSubset_symm_of_size_le`: a set that is not larger than one it includes is included in it.
* `beq_iff`: sets are equal when they have the same members.
* `EquivBEq (OrderedSet α)`, `EquivBEq Inference`: equality is an equivalence.
-/

namespace Discourse

namespace OrderedSet

universe u

variable {α : Type u} [BEq α] [EquivBEq α]

/-- Things up to `==`. -/
def equality (α : Type u) [BEq α] [EquivBEq α] : Setoid α where
  r a b := (a == b) = true
  iseqv := ⟨fun _ => BEq.rfl, BEq.symm, BEq.trans⟩

/-- The members of a set up to `==`. -/
def classes (s : OrderedSet α) : List (Quotient (equality α)) :=
  s.toList.map (Quotient.mk (equality α))

theorem length_classes (s : OrderedSet α) : s.classes.length = s.size := by
  simp [classes, size]

theorem nodup_classes (s : OrderedSet α) : s.classes.Nodup := by
  refine List.Pairwise.map _ ?_ s.distinct
  intro a b h he
  have hab : (a == b) = true := Quotient.exact he
  rw [h] at hab
  cases hab

theorem mk_mem_classes {s : OrderedSet α} {a : α} :
    Quotient.mk (equality α) a ∈ s.classes ↔ a ∈ s := by
  rw [mem_iff_exists, classes, List.mem_map]
  constructor
  · rintro ⟨x, hx, he⟩
    exact ⟨x, hx, Quotient.exact he⟩
  · rintro ⟨x, hx, he⟩
    exact ⟨x, hx, Quotient.sound he⟩

theorem classes_subset_iff {s t : OrderedSet α} :
    s.classes ⊆ t.classes ↔ s.isSubset t = true := by
  rw [isSubset_iff]
  constructor
  · intro h a ha
    exact mk_mem_classes.mp (h (mk_mem_classes.mpr ha))
  · intro h c hc
    obtain ⟨a, rfl⟩ := Quotient.exists_rep c
    exact mk_mem_classes.mpr (h a (mk_mem_classes.mp hc))

/-- Members are unequal, so a set has no room for further members in one that is no larger. -/
theorem isSubset_symm_of_size_le {s t : OrderedSet α} (h : s.isSubset t = true)
    (hsize : t.size ≤ s.size) : t.isSubset s = true := by
  have hsub : s.classes.Subperm t.classes :=
    s.nodup_classes.subperm (classes_subset_iff.mpr h)
  have hlen : t.classes.length ≤ s.classes.length := by
    rwa [length_classes, length_classes]
  exact classes_subset_iff.mp (hsub.perm_of_length_le hlen).symm.subset

theorem size_le_of_isSubset {s t : OrderedSet α} (h : s.isSubset t = true) :
    s.size ≤ t.size := by
  rw [← length_classes, ← length_classes]
  exact (s.nodup_classes.subperm (classes_subset_iff.mpr h)).length_le

/-- Sets are equal when they have the same members. -/
theorem beq_iff {s t : OrderedSet α} : (s == t) = true ↔ ∀ a, a ∈ s ↔ a ∈ t := by
  rw [beq_def, Bool.and_eq_true, beq_iff_eq]
  constructor
  · rintro ⟨hsize, hst⟩ a
    have hts := isSubset_symm_of_size_le hst (Nat.le_of_eq hsize.symm)
    exact ⟨isSubset_iff.mp hst a, isSubset_iff.mp hts a⟩
  · intro h
    have hst : s.isSubset t = true := isSubset_iff.mpr fun a => (h a).mp
    have hts : t.isSubset s = true := isSubset_iff.mpr fun a => (h a).mpr
    exact ⟨Nat.le_antisymm (size_le_of_isSubset hst) (size_le_of_isSubset hts), hst⟩

theorem beq_iff_isSubset {s t : OrderedSet α} :
    (s == t) = true ↔ s.isSubset t = true ∧ t.isSubset s = true := by
  rw [beq_iff, isSubset_iff, isSubset_iff, ← forall_and]
  exact forall_congr' fun a => iff_def

instance : EquivBEq (OrderedSet α) where
  rfl := beq_iff.mpr fun _ => Iff.rfl
  symm h := beq_iff.mpr fun a => (beq_iff.mp h a).symm
  trans h₁ h₂ := beq_iff.mpr fun a => (beq_iff.mp h₁ a).trans (beq_iff.mp h₂ a)

end OrderedSet

instance : EquivBEq Inference where
  rfl := by simp [Inference.beq_def]
  symm h := by
    simp only [Inference.beq_def, Bool.and_eq_true, beq_iff_eq] at h ⊢
    exact ⟨BEq.symm h.1, h.2.symm⟩
  trans h₁ h₂ := by
    simp only [Inference.beq_def, Bool.and_eq_true, beq_iff_eq] at h₁ h₂ ⊢
    exact ⟨BEq.trans h₁.1 h₂.1, h₁.2.trans h₂.2⟩

end Discourse
