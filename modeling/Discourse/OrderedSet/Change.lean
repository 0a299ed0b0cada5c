import Discourse.OrderedSet

/-!
# Changes of a set

What can be done to a set in the course of time: a member joins, members leave, several things join
one after another. Each change is described twice, by what it makes of the set and by what it makes
of the plain list of members.

* `OrderedSet.Change`: one constructor for each change.
* `Change.apply` and `Change.onList`: the set, and the list of members, after a change.
* `OrderedSet.built`: a set that is made of some items and then changed.
* `toList_built`: the list of members of such a set.
* `forall_mem_built`: its members are among what was given to it.
-/

namespace Discourse.OrderedSet

universe u

variable {α : Type u}

/-- A change of a set. -/
inductive Change (α : Type u) where
  /-- Something joins, unless a member equals it. -/
  | insert (a : α)
  /-- Whatever equals it leaves. -/
  | erase (a : α)
  /-- Things join one after another. -/
  | insertAll (items : List α)

/-- The list of members when `a` has joined. -/
def joined [BEq α] (members : List α) (a : α) : List α :=
  if members.any (· == a) then members else members ++ [a]

namespace Change

/-- What may join by the change. -/
def newcomers : Change α → List α
  | insert a => [a]
  | erase _ => []
  | insertAll items => items

variable [BEq α]

/-- The set after the change. -/
def apply (s : OrderedSet α) : Change α → OrderedSet α
  | insert a => s.insert a
  | erase a => s.erase a
  | insertAll items => s.insertAll items

/-- The list of members after the change. -/
def onList (members : List α) : Change α → List α
  | insert a => joined members a
  | erase a => members.filter fun x => !(x == a)
  | insertAll items => items.foldl joined members

end Change

variable [BEq α]

/-- The set that is made of the items and then changed. -/
def built (items : List α) (changes : List (Change α)) : OrderedSet α :=
  changes.foldl Change.apply (ofList items)

theorem toList_insert (s : OrderedSet α) (a : α) : (s.insert a).toList = joined s.toList a := by
  rw [joined]
  split
  · rename_i h
    exact toList_insert_of_contains h
  · rename_i h
    exact toList_insert_of_not_contains (Bool.eq_false_iff.mpr h)

theorem toList_insertAll_eq_foldl (s : OrderedSet α) (items : List α) :
    (s.insertAll items).toList = items.foldl joined s.toList := by
  induction items generalizing s with
  | nil => rfl
  | cons a items ih => rw [insertAll_cons, ih, toList_insert, List.foldl_cons]

theorem toList_apply (s : OrderedSet α) (change : Change α) :
    (change.apply s).toList = change.onList s.toList := by
  cases change with
  | insert a => exact toList_insert s a
  | erase a => exact toList_erase s a
  | insertAll items => exact toList_insertAll_eq_foldl s items

theorem toList_built (items : List α) (changes : List (Change α)) :
    (built items changes).toList = changes.foldl Change.onList (items.foldl joined []) := by
  have hrun : ∀ s : OrderedSet α,
      (changes.foldl Change.apply s).toList = changes.foldl Change.onList s.toList := by
    induction changes with
    | nil => exact fun _ => rfl
    | cons change changes ih =>
      intro s
      rw [List.foldl_cons, ih, toList_apply, List.foldl_cons]
  rw [built, hrun, ofList, toList_insertAll_eq_foldl]
  rfl

/-! ## Where members come from -/

section Source

variable {p : α → Prop} {members : List α}

theorem forall_mem_joined (h : ∀ x ∈ members, p x) {a : α} (ha : p a) :
    ∀ x ∈ joined members a, p x := by
  rw [joined]
  split
  · exact h
  · intro x hx
    rcases List.mem_append.mp hx with hx | hx
    · exact h x hx
    · exact List.mem_singleton.mp hx ▸ ha

theorem forall_mem_foldl_joined {items : List α} (h : ∀ x ∈ members, p x)
    (hitems : ∀ x ∈ items, p x) : ∀ x ∈ items.foldl joined members, p x := by
  induction items generalizing members with
  | nil => exact h
  | cons a items ih =>
    obtain ⟨ha, hitems⟩ := List.forall_mem_cons.mp hitems
    exact ih (forall_mem_joined h ha) hitems

theorem Change.forall_mem_onList (h : ∀ x ∈ members, p x) {change : Change α}
    (hchange : ∀ x ∈ change.newcomers, p x) : ∀ x ∈ change.onList members, p x := by
  cases change with
  | insert a => exact forall_mem_joined h (hchange a List.mem_cons_self)
  | erase a => exact fun x hx => h x (List.mem_filter.mp hx).1
  | insertAll items => exact forall_mem_foldl_joined h hchange

theorem forall_mem_built {items : List α} {changes : List (Change α)} (hitems : ∀ x ∈ items, p x)
    (hchanges : ∀ change ∈ changes, ∀ x ∈ change.newcomers, p x) :
    ∀ x ∈ (built items changes).toList, p x := by
  have hrun : ∀ members : List α, (∀ x ∈ members, p x) →
      ∀ x ∈ changes.foldl Change.onList members, p x := by
    induction changes with
    | nil => exact fun _ h => h
    | cons change changes ih =>
      intro members h
      obtain ⟨hchange, hchanges⟩ := List.forall_mem_cons.mp hchanges
      exact ih hchanges _ (Change.forall_mem_onList h hchange)
  rw [toList_built]
  exact hrun _ (forall_mem_foldl_joined (by simp) hitems)

end Source

end Discourse.OrderedSet
