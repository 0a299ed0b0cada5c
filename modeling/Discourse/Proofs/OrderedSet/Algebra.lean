import Discourse.OrderedSet.Change
import Discourse.Proofs.OrderedSet.Equality
import Discourse.Proofs.OrderedSet.Order

/-!
# The algebra of ordered sets

Whatever the members are, as long as `==` is an equivalence on them, ordered sets are sets: each
operation has the members that its name promises, and does not tell equal sets apart, whatever
their order. And the order is as stable as it can be: what stays keeps its place among what stays,
and what is new joins at the end.

* `Unrepeated`: no two members of a list are equal; `unrepeated_changes`: so it is after any
  changes.
* `HasMembers`: who is in the sets that operations make.
* `HasOrder`: the lists of their members.
* `Respects`: operations on equal sets.
* `ordered_sets_are_sets`: all of it.
-/

namespace Discourse.OrderedSet

universe u

variable {α : Type u} [BEq α]

/-! ## No two equal members -/

/-- No two members of the list, at whatever places, are equal. -/
def Unrepeated (members : List α) : Prop :=
  ∀ (i j : Nat) (hi : i < members.length) (hj : j < members.length), i ≠ j →
    (members[i] == members[j]) = false

theorem unrepeated_toList [EquivBEq α] (s : OrderedSet α) : Unrepeated s.toList := by
  have hordered := List.pairwise_iff_getElem.mp s.distinct
  intro i j hi hj hne
  rcases Nat.lt_or_gt_of_ne hne with h | h
  · exact hordered i j hi hj h
  · rw [BEq.comm]
    exact hordered j i hj hi h

/-- However the items and the changes repeat themselves, no list of members does. -/
theorem unrepeated_changes [EquivBEq α] (items : List α) (changes : List (Change α)) :
    Unrepeated (changes.foldl Change.onList (items.foldl joined [])) := by
  rw [← toList_built]
  exact unrepeated_toList _

/-! ## Members and their order -/

/-- Who is in the sets that are made of `s`, of `t` and of the items, which may stand for a set. -/
structure HasMembers (s t : OrderedSet α) (items : List α) : Prop where
  make : ∀ a, a ∈ ofList items ↔ ∃ x ∈ items, (x == a) = true
  insert : ∀ a b, b ∈ s.insert a ↔ b ∈ s ∨ (a == b) = true
  erase : ∀ a b, b ∈ s.erase a ↔ b ∈ s ∧ (b == a) = false
  insertAll : ∀ a, a ∈ s.insertAll items ↔ a ∈ s ∨ ∃ x ∈ items, (x == a) = true
  union : ∀ a, a ∈ s ∪ t ↔ a ∈ s ∨ a ∈ t
  inter : ∀ a, a ∈ s ∩ t ↔ a ∈ s ∧ a ∈ t
  interItems : ∀ a, a ∈ s ∩ ofList items ↔ a ∈ s ∧ ∃ x ∈ items, (x == a) = true
  sdiff : ∀ a, a ∈ s \ t ↔ a ∈ s ∧ a ∉ t
  sdiffItems : ∀ a, a ∈ s \ ofList items ↔ a ∈ s ∧ ∀ x ∈ items, (x == a) = false
  filter : ∀ p : α → Bool, (∀ x y, (x == y) = true → p x = p y) →
    ∀ a, a ∈ s.filter p ↔ a ∈ s ∧ p a = true
  copy : ∀ a, a ∈ ofList s.toList ↔ a ∈ s
  isSubset : s.isSubset t = true ↔ ∀ a ∈ s, a ∈ t
  isSubsetItems : s.isSubset (ofList items) = true ↔ ∀ a ∈ s, ∃ x ∈ items, (x == a) = true
  beq : (s == t) = true ↔ ∀ a, a ∈ s ↔ a ∈ t
  isEmpty : s.isEmpty = true ↔ ∀ a, a ∉ s

/-- In which order they are there. -/
structure HasOrder (s t : OrderedSet α) (items : List α) : Prop where
  make : (ofList items).toList = items.eraseDups
  insert : ∀ a, (s.insert a).toList = if a ∈ s then s.toList else s.toList ++ [a]
  erase : ∀ a, (s.erase a).toList = s.toList.filter fun x => !(x == a)
  insertAll : s.insertAll items = s ∪ ofList items
  union : (s ∪ t).toList = s.toList ++ t.toList.filter fun a => decide (a ∉ s)
  inter : (s ∩ t).toList = s.toList.filter fun a => decide (a ∈ t)
  sdiff : (s \ t).toList = s.toList.filter fun a => decide (a ∉ t)
  filter : ∀ p : α → Bool, (s.filter p).toList = s.toList.filter p ∧
    ofList (s.toList.filter p) = s.filter p
  copy : ofList s.toList = s

theorem hasMembers [EquivBEq α] (s t : OrderedSet α) (items : List α) :
    HasMembers s t items where
  make _ := mem_ofList
  insert _ _ := mem_insert
  erase _ _ := mem_erase
  insertAll _ := mem_insertAll
  union _ := mem_union
  inter _ := mem_inter
  interItems _ := by rw [mem_inter, mem_ofList]
  sdiff _ := mem_sdiff
  sdiffItems _ := by simp only [mem_sdiff, mem_ofList, not_exists, not_and, Bool.not_eq_true]
  filter _ hp _ := mem_filter hp
  copy _ := by rw [ofList_toList]
  isSubset := isSubset_iff
  isSubsetItems := by simp only [isSubset_iff, mem_ofList]
  beq := beq_iff
  isEmpty := by
    rw [isEmpty, List.isEmpty_iff]
    constructor
    · intro h a ha
      rw [mem_iff_exists, h] at ha
      simp at ha
    · intro h
      rw [List.eq_nil_iff_forall_not_mem]
      exact fun x hx => h x (mem_of_mem_toList hx)

theorem hasOrder [EquivBEq α] (s t : OrderedSet α) (items : List α) : HasOrder s t items where
  make := toList_ofList items
  insert a := toList_insert s a
  erase _ := rfl
  insertAll := (union_ofList s items).symm
  union := by
    rw [toList_union]
    congr 1
    exact List.filter_congr fun a _ => by simp [mem_def]
  inter := by
    rw [toList_inter]
    exact List.filter_congr fun a _ => by simp [mem_def]
  sdiff := by
    rw [toList_sdiff]
    exact List.filter_congr fun a _ => by simp [mem_def]
  filter p := ⟨rfl, OrderedSet.ext (toList_ofList_of_distinct (s.distinct.filter p))⟩
  copy := ofList_toList s

/-! ## Equal sets -/

/-- What is made of equal sets, and of equal things, is equal. -/
structure Respects (s s' t t' : OrderedSet α) : Prop where
  insert : ∀ a a', (a == a') = true → (s.insert a == s'.insert a') = true
  erase : ∀ a a', (a == a') = true → (s.erase a == s'.erase a') = true
  insertAll : ∀ items items', (ofList items == ofList items') = true →
    (s.insertAll items == s'.insertAll items') = true
  union : (s ∪ t == s' ∪ t') = true
  inter : (s ∩ t == s' ∩ t') = true
  sdiff : (s \ t == s' \ t') = true
  filter : ∀ p : α → Bool, (∀ x y, (x == y) = true → p x = p y) →
    (s.filter p == s'.filter p) = true
  copy : (ofList s.toList == ofList s'.toList) = true
  contains : ∀ a a', (a == a') = true → s.contains a = s'.contains a'
  isSubset : s.isSubset t = s'.isSubset t'
  beq : (s == t) = (s' == t')
  size : s.size = s'.size
  isEmpty : s.isEmpty = s'.isEmpty

section Equal

variable [EquivBEq α] {s s' t t' : OrderedSet α}

theorem union_beq_union (hs : (s == s') = true) (ht : (t == t') = true) :
    (s ∪ t == s' ∪ t') = true := by
  rw [beq_iff] at *
  intro a
  rw [mem_union, mem_union, hs a, ht a]

theorem filter_beq_filter (hs : (s == s') = true) {p q : α → Bool} (hpq : ∀ a, p a = q a)
    (hp : ∀ x y, (x == y) = true → p x = p y) : (s.filter p == s'.filter q) = true := by
  obtain rfl : p = q := funext hpq
  rw [beq_iff] at *
  intro a
  rw [mem_filter hp, mem_filter hp, hs a]

theorem contains_eq_contains (hs : (s == s') = true) {a a' : α} (ha : (a == a') = true) :
    s.contains a = s'.contains a' := by
  rw [contains_congr ha, Bool.eq_iff_iff]
  exact beq_iff.mp hs a'

theorem respects (hs : (s == s') = true) (ht : (t == t') = true) : Respects s s' t t' where
  insert a a' ha := by
    rw [beq_iff] at hs ⊢
    intro b
    rw [mem_insert, mem_insert, hs b, BEq.congr_left ha]
  erase a a' ha := by
    refine filter_beq_filter hs (fun b => congrArg (!·) (BEq.congr_right ha)) fun x y h => ?_
    exact congrArg (!·) (BEq.congr_left h)
  insertAll items items' h := by
    rw [← union_ofList, ← union_ofList]
    exact union_beq_union hs h
  union := union_beq_union hs ht
  inter := filter_beq_filter hs (fun a => contains_eq_contains ht BEq.rfl)
    fun _ _ h => contains_congr h
  sdiff := filter_beq_filter hs (fun a => congrArg (!·) (contains_eq_contains ht BEq.rfl))
    fun _ _ h => congrArg (!·) (contains_congr h)
  filter p hp := filter_beq_filter hs (fun _ => rfl) hp
  copy := by rwa [ofList_toList, ofList_toList]
  contains _ _ ha := contains_eq_contains hs ha
  isSubset := by
    rw [beq_iff] at hs ht
    rw [Bool.eq_iff_iff, isSubset_iff, isSubset_iff]
    simp only [hs, ht]
  beq := by rw [BEq.congr_left hs, BEq.congr_right ht]
  size := by
    rw [beq_def, Bool.and_eq_true, beq_iff_eq] at hs
    exact hs.1
  isEmpty := by
    rw [beq_iff] at hs
    rw [Bool.eq_iff_iff, (hasMembers s s []).isEmpty, (hasMembers s' s' []).isEmpty]
    simp only [hs]

end Equal

/-! ## All of it -/

/-- Ordered sets are sets, in a stable order. -/
theorem ordered_sets_are_sets (α : Type u) [BEq α] [EquivBEq α] :
    (∀ (items : List α) (changes : List (Change α)),
      (built items changes).toList = changes.foldl Change.onList (items.foldl joined []) ∧
        Unrepeated (changes.foldl Change.onList (items.foldl joined []))) ∧
      (∀ (s t : OrderedSet α) (items : List α), HasMembers s t items ∧ HasOrder s t items) ∧
      (∀ s s' t t' : OrderedSet α, (s == s') = true → (t == t') = true → Respects s s' t t') ∧
      (∀ items items' : List α, (∀ a, (∃ x ∈ items, (x == a) = true) ↔
        ∃ x ∈ items', (x == a) = true) → (ofList items == ofList items') = true) ∧
      ∀ (s : OrderedSet α) (a : α), a ∉ s → ((s.insert a).erase a).toList = s.toList := by
  refine ⟨?_, ?_, ?_, ?_, ?_⟩
  · intro items changes
    exact ⟨toList_built items changes, unrepeated_changes items changes⟩
  · intro s t items
    exact ⟨hasMembers s t items, hasOrder s t items⟩
  · intro s s' t t' hs ht
    exact respects hs ht
  · intro items items' h
    rw [beq_iff]
    intro a
    rw [mem_ofList, mem_ofList, h a]
  · intro s a ha
    rw [erase_insert_of_not_mem ha]

/-- Two sets of incompatibilities that are equal in spite of the order, of the incompatibilities
and of their sentences. -/
theorem ordered_sets_are_sets_incompatibilities :
    let s : OrderedSet Incompatibility := .ofList [.ofList ["red", "blue"], .ofList ["small"]]
    let t : OrderedSet Incompatibility := .ofList [.ofList ["small"], .ofList ["blue", "red"]]
    let sour : Incompatibility := .ofList ["sour", "sweet"]
    let isRed : Incompatibility → Bool := fun i => i.contains "red"
    ((s == t) = true ∧ sour ∉ s ∧ ∀ i j, (i == j) = true → isRed i = isRed j) ∧
      (s ∪ t).toList.map toList = ([["red", "blue"], ["small"]] : List (List Sentence)) ∧
      (t.filter isRed == s.filter isRed) = true ∧ .ofList ["red", "blue"] ∈ t.filter isRed ∧
      (t.erase (.ofList ["red", "blue"])).toList.map toList = ([["small"]] : List (List Sentence)) ∧
      ((s.insert sour).erase sour).toList = s.toList ∧
      Unrepeated ((s.insertAll t.toList).insert (.ofList ["blue", "red"])).toList := by
  intro s t sour isRed
  obtain ⟨hchanges, hlaws, hrespects, -, hgone⟩ := ordered_sets_are_sets Incompatibility
  have heq : (s == t) = true := by decide
  have hnew : sour ∉ s := by decide
  have hred : ∀ i j, (i == j) = true → isRed i = isRed j :=
    fun i j h => contains_eq_contains h BEq.rfl
  refine ⟨⟨heq, hnew, hred⟩, ?_, ?_, ?_, ?_, hgone s sour hnew, ?_⟩
  · rw [(hlaws s t []).2.union]
    decide
  · exact (hrespects t s t s (BEq.symm heq) (BEq.symm heq)).filter isRed hred
  · rw [(hlaws t t []).1.filter isRed hred]
    decide
  · rw [(hlaws t t []).2.erase]
    decide
  · have hmade := hchanges [.ofList ["red", "blue"], .ofList ["small"]]
      [.insertAll t.toList, .insert (.ofList ["blue", "red"])]
    rw [← hmade.1] at hmade
    exact hmade.2

end Discourse.OrderedSet
