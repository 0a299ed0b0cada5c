import Discourse.Json

/-!
# The depth of a value

Bounds on how many lists and objects stand inside one another, from the inside out.

* `depth_list_le`, `depth_object_le`: one more than what is inside.
* `depth_listMap_le`: a list of things that are written alike.
-/

namespace Discourse.Json

theorem depthOfItems_le {n : Nat} {xs : List Json} (h : ∀ x ∈ xs, x.depth ≤ n) :
    depthOfItems xs ≤ n := by
  induction xs with
  | nil => exact Nat.zero_le n
  | cons x xs ih =>
    obtain ⟨hx, hxs⟩ := List.forall_mem_cons.mp h
    exact Nat.max_le.mpr ⟨hx, ih hxs⟩

theorem depth_list_le {n : Nat} {xs : List Json} (h : ∀ x ∈ xs, x.depth ≤ n) :
    (list xs).depth ≤ n + 1 := by
  cases xs with
  | nil => exact Nat.zero_le _
  | cons x xs =>
    obtain ⟨hx, hxs⟩ := List.forall_mem_cons.mp h
    exact Nat.succ_le_succ (Nat.max_le.mpr ⟨hx, depthOfItems_le hxs⟩)

theorem depthOfFields_le {n : Nat} {fs : List (Text × Json)} (h : ∀ f ∈ fs, f.2.depth ≤ n) :
    depthOfFields fs ≤ n := by
  induction fs with
  | nil => exact Nat.zero_le n
  | cons f fs ih =>
    obtain ⟨hf, hfs⟩ := List.forall_mem_cons.mp h
    exact Nat.max_le.mpr ⟨hf, ih hfs⟩

theorem depth_object_le {n : Nat} {fs : List (Text × Json)} (h : ∀ f ∈ fs, f.2.depth ≤ n) :
    (object fs).depth ≤ n + 1 := by
  cases fs with
  | nil => exact Nat.zero_le _
  | cons f fs =>
    obtain ⟨hf, hfs⟩ := List.forall_mem_cons.mp h
    exact Nat.succ_le_succ (Nat.max_le.mpr ⟨hf, depthOfFields_le hfs⟩)

theorem depth_listMap_le {α : Type} {n : Nat} {f : α → Json} (as : List α)
    (h : ∀ a, (f a).depth ≤ n) : (list (as.map f)).depth ≤ n + 1 := by
  refine depth_list_le fun x hx => ?_
  obtain ⟨a, -, rfl⟩ := List.mem_map.mp hx
  exact h a

end Discourse.Json
