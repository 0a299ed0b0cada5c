import Discourse.OrderedSet

/-!
# Members of ordered sets

Who is in a set after each operation. Where `==` is an equivalence, membership does not tell equal
things apart, and each operation has the members that its name promises; where `==` is equality,
the members are the elements of the list.

* `mem_congr`: equal things are in the same sets.
* `mem_insert`, `mem_ofList`, `mem_filter`, `mem_union`, `mem_inter`, …: the members after each
  operation.
* `erase_of_not_mem`, `erase_insert_of_not_mem`: erasing what is not there, or has just joined.
* `isSubset_iff`: inclusion is inclusion of members.
* `mem_iff_mem_toList`: membership as an element, where `==` is equality.
* `ofList_toList`: a set is made again from the list of its members, whatever `==` is.
-/

namespace Discourse.OrderedSet

universe u

variable {α : Type u} [BEq α]

theorem mem_iff_exists {s : OrderedSet α} {a : α} :
    a ∈ s ↔ ∃ x ∈ s.toList, (x == a) = true := by
  simp [mem_def, contains]

theorem not_mem_iff_contains_eq_false {s : OrderedSet α} {a : α} :
    a ∉ s ↔ s.contains a = false := by
  simp [mem_def]

@[simp] theorem not_mem_empty (a : α) : a ∉ (∅ : OrderedSet α) := by
  simp [mem_iff_exists]

theorem isSubset_iff_forall_toList {s t : OrderedSet α} :
    s.isSubset t = true ↔ ∀ x ∈ s.toList, x ∈ t := by
  simp [isSubset, mem_def]

theorem insert_of_mem {s : OrderedSet α} {a : α} (h : a ∈ s) : s.insert a = s :=
  OrderedSet.ext (toList_insert_of_contains h)

/-- A property that does not tell equal things apart selects the members that have it. -/
theorem mem_filter {s : OrderedSet α} {p : α → Bool} {a : α}
    (hp : ∀ x y, (x == y) = true → p x = p y) : a ∈ s.filter p ↔ a ∈ s ∧ p a = true := by
  rw [mem_iff_exists, mem_iff_exists, toList_filter]
  constructor
  · rintro ⟨x, hx, he⟩
    obtain ⟨hs, hpx⟩ := List.mem_filter.mp hx
    exact ⟨⟨x, hs, he⟩, hp x a he ▸ hpx⟩
  · rintro ⟨⟨x, hs, he⟩, hpa⟩
    exact ⟨x, List.mem_filter.mpr ⟨hs, hp x a he ▸ hpa⟩, he⟩

/-! ## Equal things are members together -/

section Equivalence

variable [EquivBEq α]

theorem mem_of_mem_toList {s : OrderedSet α} {a : α} (h : a ∈ s.toList) : a ∈ s :=
  mem_iff_exists.mpr ⟨a, h, BEq.rfl⟩

theorem mem_of_beq {s : OrderedSet α} {a b : α} (h : (a == b) = true) (ha : a ∈ s) : b ∈ s := by
  obtain ⟨x, hx, he⟩ := mem_iff_exists.mp ha
  exact mem_iff_exists.mpr ⟨x, hx, BEq.trans he h⟩

theorem mem_congr {s : OrderedSet α} {a b : α} (h : (a == b) = true) : a ∈ s ↔ b ∈ s :=
  ⟨mem_of_beq h, mem_of_beq (BEq.symm h)⟩

/-! ## Members after each operation -/

@[simp] theorem mem_insert {s : OrderedSet α} {a b : α} :
    b ∈ s.insert a ↔ b ∈ s ∨ (a == b) = true := by
  cases h : s.contains a with
  | true =>
    rw [mem_iff_exists, toList_insert_of_contains h, ← mem_iff_exists]
    constructor
    · exact Or.inl
    · rintro (hb | hb)
      · exact hb
      · exact mem_of_beq hb h
  | false =>
    rw [mem_iff_exists, mem_iff_exists, toList_insert_of_not_contains h]
    simp only [List.mem_append, List.mem_singleton, or_and_right, exists_or, exists_eq_left]

@[simp] theorem mem_insertAll {s : OrderedSet α} {items : List α} {b : α} :
    b ∈ s.insertAll items ↔ b ∈ s ∨ ∃ x ∈ items, (x == b) = true := by
  induction items generalizing s with
  | nil => simp
  | cons a items ih => simp [ih, or_assoc]

@[simp] theorem mem_ofList {items : List α} {b : α} :
    b ∈ ofList items ↔ ∃ x ∈ items, (x == b) = true := by
  have h : b ∉ (empty : OrderedSet α) := not_mem_empty b
  simp [ofList, h]

@[simp] theorem mem_union {s t : OrderedSet α} {a : α} : a ∈ s ∪ t ↔ a ∈ s ∨ a ∈ t := by
  rw [union_def, mem_insertAll, ← mem_iff_exists]

theorem contains_congr {s : OrderedSet α} {a b : α} (h : (a == b) = true) :
    s.contains a = s.contains b := by
  rw [Bool.eq_iff_iff]
  exact mem_congr h

@[simp] theorem mem_inter {s t : OrderedSet α} {a : α} : a ∈ s ∩ t ↔ a ∈ s ∧ a ∈ t :=
  mem_filter fun _ _ h => contains_congr h

@[simp] theorem mem_sdiff {s t : OrderedSet α} {a : α} : a ∈ s \ t ↔ a ∈ s ∧ a ∉ t := by
  rw [not_mem_iff_contains_eq_false, ← Bool.not_eq_true']
  exact mem_filter fun _ _ h => congrArg (!·) (contains_congr h)

@[simp] theorem mem_erase {s : OrderedSet α} {a b : α} :
    b ∈ s.erase a ↔ b ∈ s ∧ (b == a) = false := by
  rw [← Bool.not_eq_true']
  refine mem_filter fun x y h => congrArg (!·) ?_
  exact BEq.congr_left h

theorem isSubset_iff {s t : OrderedSet α} : s.isSubset t = true ↔ ∀ a, a ∈ s → a ∈ t := by
  rw [isSubset_iff_forall_toList]
  constructor
  · intro h a ha
    obtain ⟨x, hx, he⟩ := mem_iff_exists.mp ha
    exact mem_of_beq he (h x hx)
  · intro h x hx
    exact h x (mem_of_mem_toList hx)

end Equivalence

/-- Where nothing equals it nothing leaves. -/
theorem erase_of_not_mem {s : OrderedSet α} {a : α} (h : a ∉ s) : s.erase a = s := by
  refine OrderedSet.ext (List.filter_eq_self.mpr fun x hx => ?_)
  rw [contains_eq_false_iff.mp (not_mem_iff_contains_eq_false.mp h) x hx]
  rfl

/-- What joins and leaves again leaves no trace. -/
theorem erase_insert_of_not_mem [ReflBEq α] {s : OrderedSet α} {a : α} (h : a ∉ s) :
    (s.insert a).erase a = s := by
  have hnew : s.contains a = false := not_mem_iff_contains_eq_false.mp h
  have hothers : s.toList.filter (fun x => !(x == a)) = s.toList :=
    congrArg toList (erase_of_not_mem h)
  ext1
  rw [toList_erase, toList_insert_of_not_contains hnew, List.filter_append, hothers]
  simp

/-! ## Where `==` is equality -/

theorem mem_iff_mem_toList [LawfulBEq α] {s : OrderedSet α} {a : α} : a ∈ s ↔ a ∈ s.toList := by
  simp [mem_iff_exists]

theorem nodup_toList [ReflBEq α] (s : OrderedSet α) : s.toList.Nodup :=
  s.distinct.imp fun h => ne_of_beq_false h

/-! ## Sets made from lists -/

/-- Items that equal nothing before them all join at the end. -/
theorem toList_insertAll_of_distinct (s : OrderedSet α) (items : List α)
    (h : (s.toList ++ items).Pairwise fun a b => (a == b) = false) :
    (s.insertAll items).toList = s.toList ++ items := by
  induction items generalizing s with
  | nil => simp
  | cons a items ih =>
    have ha : s.contains a = false := by
      rw [contains_eq_false_iff]
      intro x hx
      exact (List.pairwise_append.mp h).2.2 x hx a List.mem_cons_self
    have hs : (s.insert a).toList = s.toList ++ [a] := toList_insert_of_not_contains ha
    rw [insertAll_cons, ih, hs, List.append_assoc, List.singleton_append]
    rwa [hs, List.append_assoc, List.singleton_append]

theorem toList_ofList_of_distinct {items : List α}
    (h : items.Pairwise fun a b => (a == b) = false) : (ofList items).toList = items :=
  toList_insertAll_of_distinct empty items h

@[simp] theorem ofList_toList (s : OrderedSet α) : ofList s.toList = s :=
  OrderedSet.ext (toList_ofList_of_distinct s.distinct)

end Discourse.OrderedSet
