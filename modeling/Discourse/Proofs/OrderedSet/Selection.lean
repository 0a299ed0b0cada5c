import Discourse.Proofs.OrderedSet.Membership

/-!
# Selecting members

Selecting members by one property after another, and selecting before or after a newcomer.

* `filter_filter_of_imp`, `filter_comm`: two properties.
* `filter_insert`, `filter_insert_of_not`: a newcomer that has the property, and one that has not.
-/

namespace Discourse.OrderedSet

universe u

variable {α : Type u} [BEq α] {s : OrderedSet α} {p q : α → Bool}

theorem filter_congr (h : ∀ a ∈ s.toList, p a = q a) : s.filter p = s.filter q :=
  OrderedSet.ext (List.filter_congr h)

/-- Of what has the weaker property the stronger one selects what it selects of all. -/
theorem filter_filter_of_imp (h : ∀ a, q a = true → p a = true) :
    (s.filter p).filter q = s.filter q := by
  ext1
  rw [toList_filter, toList_filter, toList_filter, List.filter_filter]
  refine List.filter_congr fun a _ => ?_
  cases hq : q a with
  | true => rw [h a hq, Bool.and_self]
  | false => exact Bool.false_and _

theorem filter_comm (s : OrderedSet α) (p q : α → Bool) :
    (s.filter p).filter q = (s.filter q).filter p := by
  ext1
  simp only [toList_filter, List.filter_filter, Bool.and_comm]

/-- A newcomer with the property joins before or after the selection. -/
theorem filter_insert (hp : ∀ x y, (x == y) = true → p x = p y) (s : OrderedSet α) {a : α}
    (ha : p a = true) : (s.insert a).filter p = (s.filter p).insert a := by
  have hmem : a ∈ s.filter p ↔ a ∈ s := by
    rw [mem_filter hp]
    exact and_iff_left ha
  by_cases h : a ∈ s
  · rw [insert_of_mem h, insert_of_mem (hmem.mpr h)]
  · have hs := not_mem_iff_contains_eq_false.mp h
    have hselected := not_mem_iff_contains_eq_false.mp (mt hmem.mp h)
    ext1
    rw [toList_insert_of_not_contains hselected, toList_filter, toList_filter,
      toList_insert_of_not_contains hs, List.filter_append, List.filter_cons_of_pos ha,
      List.filter_nil]

/-- A newcomer without the property is not selected. -/
theorem filter_insert_of_not (s : OrderedSet α) {a : α} (ha : ¬ p a = true) :
    (s.insert a).filter p = s.filter p := by
  by_cases h : a ∈ s
  · rw [insert_of_mem h]
  · ext1
    rw [toList_filter, toList_insert_of_not_contains (not_mem_iff_contains_eq_false.mp h),
      List.filter_append, List.filter_cons_of_neg ha, List.filter_nil, List.append_nil,
      toList_filter]

end Discourse.OrderedSet
