import Discourse.OrderedSet

/-!
# Ordered sets under an injection

Where `==` is equality, an injection keeps members apart and does not disturb their order, and each
operation on sets can be done before it or after it.

* `OrderedSet.map`: the images of the members.
* `contains_map`, `map_insert`, `map_filter`, `map_erase`: operations before and after an injection.
-/

namespace Discourse.OrderedSet

open Function (Injective)

variable {α β : Type} [BEq α] [LawfulBEq α] [BEq β] [LawfulBEq β] {f : α → β}

theorem beq_map (hf : Injective f) (a b : α) : (f a == f b) = (a == b) := by
  rw [Bool.eq_iff_iff, beq_iff_eq, beq_iff_eq]
  exact hf.eq_iff

/-- The images of the members, in the order of the members. -/
def map (f : α → β) (hf : Injective f) (s : OrderedSet α) : OrderedSet β where
  toList := s.toList.map f
  distinct := by
    rw [List.pairwise_map]
    exact s.distinct.imp fun h => (beq_map hf _ _).trans h

@[simp] theorem toList_map (hf : Injective f) (s : OrderedSet α) :
    (s.map f hf).toList = s.toList.map f := rfl

@[simp] theorem map_empty (hf : Injective f) : (∅ : OrderedSet α).map f hf = ∅ := rfl

@[simp] theorem size_map (hf : Injective f) (s : OrderedSet α) : (s.map f hf).size = s.size :=
  List.length_map f

@[simp] theorem contains_map (hf : Injective f) (s : OrderedSet α) (a : α) :
    (s.map f hf).contains (f a) = s.contains a := by
  rw [contains, toList_map, List.any_map, contains]
  congr 1
  funext b
  exact beq_map hf b a

theorem map_insert (hf : Injective f) (s : OrderedSet α) (a : α) :
    (s.insert a).map f hf = (s.map f hf).insert (f a) := by
  have hmem := contains_map hf s a
  ext1
  cases h : s.contains a with
  | true => rw [toList_map, toList_insert_of_contains h, toList_insert_of_contains (hmem.trans h),
      toList_map]
  | false =>
    rw [toList_map, toList_insert_of_not_contains h, toList_insert_of_not_contains (hmem.trans h),
      List.map_append, toList_map, List.map_singleton]

/-- A property selects the same members before and after, if it does not tell them from their
images. -/
theorem map_filter (hf : Injective f) (s : OrderedSet α) {p : α → Bool} {q : β → Bool}
    (h : ∀ a, q (f a) = p a) : (s.filter p).map f hf = (s.map f hf).filter q := by
  ext1
  rw [toList_map, toList_filter, toList_filter, toList_map, List.filter_map]
  congr 2
  funext a
  exact (h a).symm

theorem map_erase (hf : Injective f) (s : OrderedSet α) (a : α) :
    (s.erase a).map f hf = (s.map f hf).erase (f a) :=
  map_filter hf s fun b => congrArg (!·) (beq_map hf b a)

end Discourse.OrderedSet
