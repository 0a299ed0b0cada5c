/-!
# Ordered sets

A finite set whose members are told apart by `==` alone, kept in the order in which they joined.
Nothing is asked of `==` here, so a set can hold members that have no order and no hash, other
sets among them. The type carries the one fact every operation keeps: no member equals a later
one.

* `OrderedSet.distinct`: no member equals a later member.
* `toList_insert_of_contains`, `toList_insert_of_not_contains`: joining appends a new member and
  ignores one that equals a member already there.
* `toList_filter`, `toList_erase`: leaving keeps the order of the rest.

Equality of sets ignores the order: two sets are equal when they have as many members and each
member of the first is in the second.
-/

namespace Discourse

universe u

/-- A list in which no member equals a later one. -/
@[ext]
structure OrderedSet (α : Type u) [BEq α] where
  /-- The members, first come first. -/
  toList : List α
  /-- No member equals a later one. -/
  distinct : toList.Pairwise fun a b => (a == b) = false

namespace OrderedSet

variable {α : Type u} [BEq α]

/-! ## Membership -/

/-- Whether some member equals `a`. -/
def contains (s : OrderedSet α) (a : α) : Bool := s.toList.any (· == a)

instance : Membership α (OrderedSet α) := ⟨fun s a => s.contains a = true⟩

instance (a : α) (s : OrderedSet α) : Decidable (a ∈ s) :=
  inferInstanceAs (Decidable (s.contains a = true))

theorem mem_def {a : α} {s : OrderedSet α} : a ∈ s ↔ s.contains a = true := Iff.rfl

theorem contains_eq_false_iff {s : OrderedSet α} {a : α} :
    s.contains a = false ↔ ∀ x ∈ s.toList, (x == a) = false := by
  simp [contains, List.any_eq_false]

/-- The number of members. -/
def size (s : OrderedSet α) : Nat := s.toList.length

/-- Whether there is no member. -/
def isEmpty (s : OrderedSet α) : Bool := s.toList.isEmpty

/-! ## Joining and leaving -/

/-- The set without members. -/
def empty : OrderedSet α := ⟨[], .nil⟩

instance : EmptyCollection (OrderedSet α) := ⟨empty⟩
instance : Inhabited (OrderedSet α) := ⟨empty⟩

theorem distinct_append {l : List α} {a : α} (h : l.Pairwise fun a b => (a == b) = false)
    (ha : ∀ x ∈ l, (x == a) = false) : (l ++ [a]).Pairwise fun a b => (a == b) = false := by
  rw [List.pairwise_append]
  refine ⟨h, List.pairwise_singleton _ _, ?_⟩
  intro x hx y hy
  rw [List.mem_singleton] at hy
  exact hy ▸ ha x hx

/-- Adds `a` at the end, unless a member equals it. -/
def insert (s : OrderedSet α) (a : α) : OrderedSet α :=
  if h : s.contains a = false then
    ⟨s.toList ++ [a], distinct_append s.distinct (contains_eq_false_iff.mp h)⟩
  else s

/-- Adds the items one after another. -/
def insertAll (s : OrderedSet α) (items : List α) : OrderedSet α := items.foldl insert s

/-- The set of the items, each at its first place. -/
def ofList (items : List α) : OrderedSet α := empty.insertAll items

/-- The members that satisfy `p`. -/
def filter (s : OrderedSet α) (p : α → Bool) : OrderedSet α :=
  ⟨s.toList.filter p, s.distinct.filter p⟩

/-- Removes the members that equal `a`. -/
def erase (s : OrderedSet α) (a : α) : OrderedSet α := s.filter fun x => !(x == a)

/-! ## Algebra -/

/-- The members of `s`, then the new ones of `t`. -/
protected def union (s t : OrderedSet α) : OrderedSet α := s.insertAll t.toList

/-- The members of `s` that are in `t`. -/
protected def inter (s t : OrderedSet α) : OrderedSet α := s.filter t.contains

/-- The members of `s` that are not in `t`. -/
protected def sdiff (s t : OrderedSet α) : OrderedSet α := s.filter fun x => !t.contains x

instance : Union (OrderedSet α) := ⟨OrderedSet.union⟩
instance : Inter (OrderedSet α) := ⟨OrderedSet.inter⟩
instance : SDiff (OrderedSet α) := ⟨OrderedSet.sdiff⟩

/-- Whether every member of `s` is in `t`. -/
def isSubset (s t : OrderedSet α) : Bool := s.toList.all t.contains

/-- Equality of sets, whatever the order of the members. -/
protected def beq (s t : OrderedSet α) : Bool := s.size == t.size && s.isSubset t

instance : BEq (OrderedSet α) := ⟨OrderedSet.beq⟩

/-! ## The list of members after each operation -/

@[simp] theorem toList_empty : (∅ : OrderedSet α).toList = [] := rfl

theorem toList_insert_of_contains {s : OrderedSet α} {a : α} (h : s.contains a = true) :
    (s.insert a).toList = s.toList := by
  simp [insert, h]

theorem toList_insert_of_not_contains {s : OrderedSet α} {a : α} (h : s.contains a = false) :
    (s.insert a).toList = s.toList ++ [a] := by
  simp [insert, h]

@[simp] theorem insertAll_nil (s : OrderedSet α) : s.insertAll [] = s := rfl

@[simp] theorem insertAll_cons (s : OrderedSet α) (a : α) (items : List α) :
    s.insertAll (a :: items) = (s.insert a).insertAll items := rfl

@[simp] theorem toList_filter (s : OrderedSet α) (p : α → Bool) :
    (s.filter p).toList = s.toList.filter p := rfl

@[simp] theorem toList_erase (s : OrderedSet α) (a : α) :
    (s.erase a).toList = s.toList.filter fun x => !(x == a) := rfl

theorem union_def (s t : OrderedSet α) : s ∪ t = s.insertAll t.toList := rfl

@[simp] theorem toList_inter (s t : OrderedSet α) :
    (s ∩ t).toList = s.toList.filter t.contains := rfl

@[simp] theorem toList_sdiff (s t : OrderedSet α) :
    (s \ t).toList = s.toList.filter fun x => !t.contains x := rfl

theorem beq_def (s t : OrderedSet α) : (s == t) = (s.size == t.size && s.isSubset t) := rfl

end OrderedSet

end Discourse
