import Discourse.OrderedSet.Change
import Discourse.Proofs.OrderedSet.Equality
import Discourse.Value
import Mathlib.Data.Finset.Dedup

/-!
# Equality of nested values

Values are compared from the outside in, and of two sets only the sizes and one inclusion are
looked at. That this is an equivalence is seen from the inside out: a value is one layer over
smaller values, and where equality of the smaller ones is an equivalence, sets of them are equal
just when they have the same members, so equality of the layers is an equivalence too. It takes sets
in which no two members are equal; a set is one that is built and then changed, as long as no member
of it is changed.

* `Value.Layer`, `Layer.Alike`: one level of a value, and equality of one level.
* `Value.IsBuilt`: values that are built from the inside out; `isBuilt_set_iff`: what is so of the
  sets among them.
* `EquivBEq {v : Value // v.IsBuilt}`: equality is an equivalence at every depth.
* `set_beq_set_iff`: sets are equal when each member of either equals a member of the other.
* `Inference.beq_iff`, `Inference.key_eq_key_iff`: equal inferences, and what they are known by.
-/

namespace Discourse

open OrderedSet (Change built)

/-- Lists are compared item by item. -/
instance instEquivBEqList {α : Type} [BEq α] [EquivBEq α] : EquivBEq (List α) where
  symm {l m} h := by
    induction l generalizing m with
    | nil => cases m with
      | nil => exact h
      | cons b m => exact absurd h Bool.false_ne_true
    | cons a l ih => cases m with
      | nil => exact absurd h Bool.false_ne_true
      | cons b m =>
        rw [List.cons_beq_cons, Bool.and_eq_true] at h ⊢
        exact ⟨BEq.symm h.1, ih h.2⟩
  trans {l m k} h₁ h₂ := by
    induction l generalizing m k with
    | nil => cases m with
      | nil => exact h₂
      | cons b m => exact absurd h₁ Bool.false_ne_true
    | cons a l ih => cases m with
      | nil => exact absurd h₁ Bool.false_ne_true
      | cons b m => cases k with
        | nil => exact absurd h₂ Bool.false_ne_true
        | cons c k =>
          rw [List.cons_beq_cons, Bool.and_eq_true] at h₁ h₂ ⊢
          exact ⟨BEq.trans h₁.1 h₂.1, ih h₁.2 h₂.2⟩

namespace Value

/-! ## The loops -/

theorem beq_def (x y : Value) : (x == y) = same x y := rfl

theorem isAmong_eq_any (x : Value) (ys : List Value) : isAmong x ys = ys.any (· == x) := by
  induction ys with
  | nil => rw [isAmong, List.any_nil]
  | cons y ys ih => rw [isAmong, ih, List.any_cons, beq_def]

theorem allAmong_eq_all (xs ys : List Value) :
    allAmong xs ys = xs.all fun x => ys.any (· == x) := by
  induction xs with
  | nil => rw [allAmong, List.all_nil]
  | cons x xs ih => rw [allAmong, isAmong_eq_any, ih, List.all_cons]

theorem sameItems_eq_beq (xs ys : List Value) : sameItems xs ys = (xs == ys) := by
  induction xs generalizing ys with
  | nil => cases ys with
    | nil => rw [sameItems]; rfl
    | cons y ys => rw [sameItems] <;> simp
  | cons x xs ih => cases ys with
    | nil => rw [sameItems] <;> simp
    | cons y ys => rw [sameItems, ih, List.cons_beq_cons, beq_def]

theorem text_beq_text (s t : Text) : (text s == text t) = (s == t) := by rw [beq_def, same]

theorem number_beq_number (m n : Int) : (number m == number n) = (m == n) := by rw [beq_def, same]

theorem list_beq_list (xs ys : List Value) : (list xs == list ys) = (xs == ys) := by
  rw [beq_def, same, sameItems_eq_beq]

theorem row_beq_row (xs ys : List Value) : (row xs == row ys) = (xs == ys) := by
  rw [beq_def, same, sameItems_eq_beq]

theorem set_beq_set (xs ys : List Value) :
    (set xs == set ys) = (xs.length == ys.length && xs.all fun x => ys.any (· == x)) := by
  rw [beq_def, same, allAmong_eq_all]

theorem inference_beq_inference (i j : Inference) : (inference i == inference j) = (i == j) := by
  rw [beq_def, same]

/-! ## One level -/

/-- A value as it looks on its outermost level. -/
inductive Layer (α : Type) [BEq α] where
  | text (t : Text)
  | number (n : Int)
  | list (items : List α)
  | row (items : List α)
  | set (members : OrderedSet α)
  | inference (i : Inference)

namespace Layer

section Alike

variable {α : Type} [BEq α]

/-- Equality of one level, that of the next level being given. -/
inductive Alike : Layer α → Layer α → Prop where
  | text (t : Text) : Alike (text t) (text t)
  | number (n : Int) : Alike (number n) (number n)
  | list {xs ys : List α} (h : (xs == ys) = true) : Alike (list xs) (list ys)
  | row {xs ys : List α} (h : (xs == ys) = true) : Alike (row xs) (row ys)
  | set {s t : OrderedSet α} (h : (s == t) = true) : Alike (set s) (set t)
  | inference {i j : Inference} (h : (i == j) = true) : Alike (inference i) (inference j)

variable [EquivBEq α] {x y z : Layer α}

theorem Alike.refl (x : Layer α) : Alike x x := by
  cases x with
  | text t => exact .text t
  | number n => exact .number n
  | list items => exact .list BEq.rfl
  | row items => exact .row BEq.rfl
  | set members => exact .set BEq.rfl
  | inference i => exact .inference BEq.rfl

theorem Alike.symm (h : Alike x y) : Alike y x := by
  cases h with
  | text t => exact .text t
  | number n => exact .number n
  | list h => exact .list (BEq.symm h)
  | row h => exact .row (BEq.symm h)
  | set h => exact .set (BEq.symm h)
  | inference h => exact .inference (BEq.symm h)

theorem Alike.trans (hxy : Alike x y) (hyz : Alike y z) : Alike x z := by
  cases hxy with
  | text t => exact hyz
  | number n => exact hyz
  | list h => cases hyz with | list h' => exact .list (BEq.trans h h')
  | row h => cases hyz with | row h' => exact .row (BEq.trans h h')
  | set h => cases hyz with | set h' => exact .set (BEq.trans h h')
  | inference h => cases hyz with | inference h' => exact .inference (BEq.trans h h')

end Alike

section Values

variable {p : Value → Prop}

/-- The value that looks so. -/
def toValue : Layer {v // p v} → Value
  | text t => .text t
  | number n => .number n
  | list items => .list (items.map Subtype.val)
  | row items => .row (items.map Subtype.val)
  | set members => .set (members.toList.map Subtype.val)
  | inference i => .inference i

theorem map_val_beq (xs ys : List {v // p v}) :
    (xs.map Subtype.val == ys.map Subtype.val) = (xs == ys) := by
  induction xs generalizing ys with
  | nil => cases ys <;> rfl
  | cons x xs ih => cases ys with
    | nil => rfl
    | cons y ys =>
      rw [List.map_cons, List.map_cons, List.cons_beq_cons, List.cons_beq_cons, ih]
      rfl

theorem set_map_val_beq (s t : OrderedSet {v // p v}) :
    (Value.set (s.toList.map Subtype.val) == .set (t.toList.map Subtype.val)) = (s == t) := by
  rw [set_beq_set, List.length_map, List.length_map, List.all_map, OrderedSet.beq_def]
  congr 2
  funext x
  exact List.any_map

/-- Values are compared by what they look like. -/
theorem toValue_beq_iff {x y : Layer {v // p v}} :
    (x.toValue == y.toValue) = true ↔ Alike x y := by
  constructor
  · intro h
    cases x <;> cases y
    case text.text s t =>
      rw [toValue, toValue, text_beq_text, beq_iff_eq] at h
      exact h ▸ .text s
    case number.number m n =>
      rw [toValue, toValue, number_beq_number, beq_iff_eq] at h
      exact h ▸ .number m
    case list.list xs ys =>
      rw [toValue, toValue, list_beq_list, map_val_beq] at h
      exact .list h
    case row.row xs ys =>
      rw [toValue, toValue, row_beq_row, map_val_beq] at h
      exact .row h
    case set.set s t =>
      rw [toValue, toValue, set_map_val_beq] at h
      exact .set h
    case inference.inference i j =>
      rw [toValue, toValue, inference_beq_inference] at h
      exact .inference h
    -- values of different kinds are never equal
    all_goals simp [toValue, beq_def, same] at h
  · intro h
    cases h with
    | text t => rw [toValue, text_beq_text, beq_iff_eq]
    | number n => rw [toValue, number_beq_number, beq_iff_eq]
    | list h => rwa [toValue, toValue, list_beq_list, map_val_beq]
    | row h => rwa [toValue, toValue, row_beq_row, map_val_beq]
    | set h => rwa [toValue, toValue, set_map_val_beq]
    | inference h => rwa [toValue, toValue, inference_beq_inference]

end Values

end Layer

/-! ## Values as they are built -/

/-- Values that are built from the inside out. A set is made of values and then changed; it is not
changed any more once it is inside another value. -/
inductive IsBuilt : Value → Prop where
  | text (t : Text) : IsBuilt (text t)
  | number (n : Int) : IsBuilt (number n)
  | list {items : List Value} (h : ∀ x ∈ items, IsBuilt x) : IsBuilt (list items)
  | row {items : List Value} (h : ∀ x ∈ items, IsBuilt x) : IsBuilt (row items)
  | set {items : List Value} {changes : List (Change Value)} (hitems : ∀ x ∈ items, IsBuilt x)
      (hchanges : ∀ change ∈ changes, ∀ x ∈ change.newcomers, IsBuilt x) :
      IsBuilt (set (built items changes).toList)
  | inference (i : Inference) : IsBuilt (inference i)

/-- Of what a set is built of and changed by, all that is left to see is that its members are built
and that no two of them are equal. -/
theorem isBuilt_set_iff {members : List Value} :
    IsBuilt (set members) ↔
      (∀ x ∈ members, x.IsBuilt) ∧ members.Pairwise fun x y => (x == y) = false := by
  constructor
  · intro h
    cases h with
    | @set items changes hitems hchanges =>
      exact ⟨OrderedSet.forall_mem_built hitems hchanges, (built items changes).distinct⟩
  · rintro ⟨hmembers, hdistinct⟩
    have hlist : (built members []).toList = members :=
      OrderedSet.toList_ofList_of_distinct hdistinct
    rw [← hlist]
    exact .set hmembers (List.forall_mem_nil _)

/-- The items and members of a built value are built and smaller, so the value is a layer over
smaller ones. -/
theorem IsBuilt.exists_layer {v : Value} (hv : v.IsBuilt) {p : Value → Prop}
    (hp : ∀ x : Value, x.IsBuilt → sizeOf x < sizeOf v → p x) :
    ∃ l : Layer {x // p x}, l.toValue = v := by
  have hsmaller : ∀ {items : List Value}, (∀ x ∈ items, x.IsBuilt) → sizeOf items < sizeOf v →
      ∀ x ∈ items, p x :=
    fun hbuilt hsize x hx =>
      hp x (hbuilt x hx) (Nat.lt_trans (List.sizeOf_lt_of_mem hx) hsize)
  cases v with
  | text t => exact ⟨.text t, rfl⟩
  | number n => exact ⟨.number n, rfl⟩
  | list items =>
    cases hv with
    | list h =>
      have hitems := hsmaller h (by simp only [list.sizeOf_spec]; omega)
      exact ⟨.list (items.attachWith p hitems),
        congrArg Value.list (List.attachWith_map_subtype_val hitems)⟩
  | row items =>
    cases hv with
    | row h =>
      have hitems := hsmaller h (by simp only [row.sizeOf_spec]; omega)
      exact ⟨.row (items.attachWith p hitems),
        congrArg Value.row (List.attachWith_map_subtype_val hitems)⟩
  | set members =>
    obtain ⟨h, hdistinct⟩ := isBuilt_set_iff.mp hv
    have hmembers := hsmaller h (by simp only [set.sizeOf_spec]; omega)
    have hval := List.attachWith_map_subtype_val hmembers
    exact ⟨.set ⟨members.attachWith p hmembers, List.pairwise_map.mp (hval ▸ hdistinct)⟩,
      congrArg Value.set hval⟩
  | inference i => exact ⟨.inference i, rfl⟩

/-- The built values that are smaller than `n`. -/
abbrev Small (n : Nat) : Type := {v : Value // v.IsBuilt ∧ sizeOf v < n}

/-- On layers over smaller values equality is an equivalence as it is on the smaller values. -/
theorem equivBEq_small (n : Nat) : EquivBEq (Small n) := by
  induction n with
  | zero =>
    have hnone : ∀ v : Small 0, False := fun v => Nat.not_lt_zero _ v.2.2
    exact
      { rfl := fun {v} => (hnone v).elim
        symm := fun {v} => (hnone v).elim
        trans := fun {v} => (hnone v).elim }
  | succ n ih =>
    have hlayers : ∀ v : Small (n + 1), ∃ l : Layer (Small n), l.toValue = v.val := fun v =>
      v.2.1.exists_layer fun x hx hlt => ⟨hx, Nat.lt_of_lt_of_le hlt (Nat.le_of_lt_succ v.2.2)⟩
    choose layer hlayer using hlayers
    have hbeq : ∀ v w, (v == w) = true ↔ (layer v).Alike (layer w) := by
      intro v w
      rw [← Layer.toValue_beq_iff, hlayer, hlayer]
      rfl
    exact
      { rfl := fun {v} => (hbeq v v).mpr (.refl _)
        symm := fun {v w} h => (hbeq w v).mpr ((hbeq v w).mp h).symm
        trans := fun {u v w} huv hvw =>
          (hbeq u w).mpr (((hbeq u v).mp huv).trans ((hbeq v w).mp hvw)) }

/-- On built values equality is an equivalence. -/
instance : EquivBEq {v : Value // v.IsBuilt} where
  rfl {x} := by
    have := equivBEq_small (sizeOf x.val + 1)
    exact BEq.rfl (a := (⟨x, x.2, by omega⟩ : Small (sizeOf x.val + 1)))
  symm {x y} h := by
    have := equivBEq_small (sizeOf x.val + sizeOf y.val + 1)
    exact BEq.symm (a := (⟨x, x.2, by omega⟩ : Small (sizeOf x.val + sizeOf y.val + 1)))
      (b := ⟨y, y.2, by omega⟩) h
  trans {x y z} hxy hyz := by
    have := equivBEq_small (sizeOf x.val + sizeOf y.val + sizeOf z.val + 1)
    exact BEq.trans
      (a := (⟨x, x.2, by omega⟩ : Small (sizeOf x.val + sizeOf y.val + sizeOf z.val + 1)))
      (b := ⟨y, y.2, by omega⟩) (c := ⟨z, z.2, by omega⟩) hxy hyz

/-! ## Sets -/

theorem IsBuilt.exists_members {xs : List Value} (h : IsBuilt (Value.set xs)) :
    ∃ s : OrderedSet {v : Value // v.IsBuilt}, s.toList.map Subtype.val = xs := by
  obtain ⟨l, hl⟩ := h.exists_layer fun x hx _ => hx
  cases l with
  | set s => exact ⟨s, Value.set.inj hl⟩
  | _ => cases hl

/-- Sets are equal when each member of either equals a member of the other. -/
theorem set_beq_set_iff {xs ys : List Value} (hxs : (set xs).IsBuilt) (hys : (set ys).IsBuilt) :
    (set xs == set ys) = true ↔
      (∀ x ∈ xs, ∃ y ∈ ys, (x == y) = true) ∧ ∀ y ∈ ys, ∃ x ∈ xs, (y == x) = true := by
  obtain ⟨s, rfl⟩ := hxs.exists_members
  obtain ⟨t, rfl⟩ := hys.exists_members
  have hmem : ∀ (a : {v : Value // v.IsBuilt}) (u : OrderedSet {v : Value // v.IsBuilt}),
      a ∈ u ↔ ∃ b ∈ u.toList.map Subtype.val, (a.val == b) = true := by
    intro a u
    have hcomm : ∀ b : {v : Value // v.IsBuilt}, (a.val == b.val) = (b == a) :=
      fun b => BEq.comm (a := a) (b := b)
    simp only [OrderedSet.mem_iff_exists, List.mem_map, exists_exists_and_eq_and, hcomm]
  rw [Layer.set_map_val_beq, OrderedSet.beq_iff_isSubset, OrderedSet.isSubset_iff_forall_toList,
    OrderedSet.isSubset_iff_forall_toList, List.forall_mem_map, List.forall_mem_map]
  simp only [hmem]

end Value

/-! ## Inferences -/

namespace Inference

variable {i j : Inference}

/-- What an inference is known by in a table: its premises without their order, and its
conclusion. -/
def key (i : Inference) : Finset Sentence × Sentence :=
  (i.premises.toList.toFinset, i.conclusion)

theorem beq_iff : (i == j) = true ↔
    (∀ s, s ∈ i.premises.toList ↔ s ∈ j.premises.toList) ∧ i.conclusion = j.conclusion := by
  rw [beq_def, Bool.and_eq_true, OrderedSet.beq_iff, beq_iff_eq]
  simp only [OrderedSet.mem_iff_mem_toList]

theorem key_eq_key_iff : i.key = j.key ↔ (i == j) = true := by
  rw [beq_iff, key, key, Prod.mk.injEq, Finset.ext_iff]
  simp only [List.mem_toFinset]

end Inference

end Discourse
