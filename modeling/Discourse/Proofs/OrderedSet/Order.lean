import Discourse.Proofs.OrderedSet.Selection

/-!
# The order of the members

Members stand in the order in which they joined, each at its first place. So a set that is made
from a list has the first occurrences of the list, and a union has the members of the first set and
then what is new in the second.

* `toList_ofList`: a set made from a list.
* `union_ofList`: things that join a set, as a set of their own or one after another.
* `toList_union`: the members of a union.
* `ofList_filter`: selecting before or after repetitions go.
-/

namespace Discourse.OrderedSet

universe u

variable {α : Type u} [BEq α]

/-! ## First occurrences -/

/-- Of what is added, the first occurrences of what is not there yet join. -/
theorem toList_insertAll (s : OrderedSet α) (items : List α) :
    (s.insertAll items).toList =
      s.toList ++ (items.filter fun a => !s.contains a).eraseDupsBy fun b a => a == b := by
  induction items generalizing s with
  | nil => exact (List.append_nil _).symm
  | cons a items ih =>
    rw [insertAll_cons, ih]
    cases h : s.contains a with
    | true =>
      rw [insert_of_mem h, List.filter_cons_of_neg (by simp [h])]
    | false =>
      have hlist : (s.insert a).toList = s.toList ++ [a] := toList_insert_of_not_contains h
      have hfilter : (items.filter fun b => !(s.insert a).contains b) =
          (items.filter fun b => !s.contains b).filter fun b => decide ((a == b) = false) := by
        rw [List.filter_filter]
        exact List.filter_congr fun b _ => by simp [contains, hlist, Bool.and_comm]
      rw [List.filter_cons_of_pos (by simp [h]), List.eraseDupsBy_cons, hlist, hfilter,
        List.append_assoc, List.singleton_append]

theorem toList_ofList_eq_eraseDupsBy (items : List α) :
    (ofList items).toList = items.eraseDupsBy fun b a => a == b := by
  have hall : (items.filter fun a => !(empty : OrderedSet α).contains a) = items :=
    List.filter_eq_self.mpr fun _ _ => rfl
  rw [ofList, toList_insertAll, hall]
  rfl

/-- A set made from a list has the first occurrences, in their order. -/
theorem toList_ofList [EquivBEq α] (items : List α) : (ofList items).toList = items.eraseDups := by
  have hsymm : (fun b a : α => a == b) = (· == ·) := by
    funext b a
    exact BEq.comm
  rw [toList_ofList_eq_eraseDupsBy, hsymm]
  rfl

/-! ## Unions -/

/-- In a union the members of the first set come first, then the new ones of the second. -/
theorem toList_union (s t : OrderedSet α) :
    (s ∪ t).toList = s.toList ++ t.toList.filter fun a => !s.contains a := by
  have hnew : (t.toList.filter fun a => !s.contains a).eraseDupsBy (fun b a => a == b) =
      t.toList.filter fun a => !s.contains a := by
    rw [← toList_ofList_eq_eraseDupsBy]
    exact toList_ofList_of_distinct (t.distinct.filter _)
  rw [union_def, toList_insertAll, hnew]

/-- Things join one after another as they do when they are a set already. -/
theorem union_ofList [EquivBEq α] (s : OrderedSet α) (items : List α) :
    s ∪ ofList items = s.insertAll items := by
  -- what has been collected of the items so far has joined in the same way
  have hstep : ∀ t : OrderedSet α, s ∪ t.insertAll items = (s ∪ t).insertAll items := by
    induction items with
    | nil => exact fun _ => rfl
    | cons a items ih =>
      intro t
      rw [insertAll_cons, ih, insertAll_cons]
      congr 1
      by_cases h : a ∈ t
      · rw [insert_of_mem h, insert_of_mem (mem_union.mpr (Or.inr h))]
      · have hlist := toList_insert_of_not_contains (not_mem_iff_contains_eq_false.mp h)
        rw [union_def, hlist, insertAll, List.foldl_append]
        rfl
  exact hstep empty

/-! ## Selections -/

/-- Repetitions go before or after a selection by what does not tell equal things apart. -/
theorem ofList_filter {p : α → Bool} (hp : ∀ x y, (x == y) = true → p x = p y) (items : List α) :
    ofList (items.filter p) = (ofList items).filter p := by
  have hstep : ∀ s : OrderedSet α,
      (s.filter p).insertAll (items.filter p) = (s.insertAll items).filter p := by
    induction items with
    | nil => exact fun _ => rfl
    | cons a items ih =>
      intro s
      rw [insertAll_cons, ← ih]
      cases ha : p a with
      | true => rw [List.filter_cons_of_pos ha, insertAll_cons, filter_insert hp s ha]
      | false =>
        have hnot := Bool.eq_false_iff.mp ha
        rw [List.filter_cons_of_neg hnot, filter_insert_of_not s hnot]
  exact hstep empty

end Discourse.OrderedSet
