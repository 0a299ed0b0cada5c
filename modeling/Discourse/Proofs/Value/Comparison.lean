import Discourse.Proofs.Value.Equality
import Discourse.Shelf
import Mathlib.Data.List.Forall2

/-!
# Comparison at every depth

Sets on a shelf are compared by looking from place to place, and only so far down; what comes out
is how the values compare that the entries are at present. For values that are built from the
inside out this is an equivalence, however deep they are.

* `Value.depth`: how many sets stand inside one another.
* `Shelf.Shows`: an entry is a value at present.
* `Shelf.sameWithin_eq`: entries are compared as the values that they are.
* `Value.equality_at_every_depth`: all that equality of values comes to.
-/

namespace Discourse

open List (Forall₂)

/-! ## Answers that may fail -/

section Answers

variable {ε α β : Type} {f : α → Except ε Bool} {p : β → Bool} {l : List α} {m : List β}

/-- Where an answer is given about each member, it is given about any of them. -/
theorem anyM_eq_ok (h : Forall₂ (fun a b => f a = .ok (p b)) l m) : l.anyM f = .ok (m.any p) := by
  induction h with
  | nil => rfl
  | @cons a b l m hab _ ih =>
    rw [List.anyM_cons, hab, List.any_cons]
    cases hb : p b with
    | true => rfl
    | false => exact ih

theorem allM_eq_ok (h : Forall₂ (fun a b => f a = .ok (p b)) l m) : l.allM f = .ok (m.all p) := by
  induction h with
  | nil => rfl
  | @cons a b l m hab _ ih =>
    rw [List.allM_cons, hab, List.all_cons]
    cases hb : p b with
    | true => exact ih
    | false => rfl

theorem forall₂_of_mapM_eq_ok {f : α → Except ε β} (h : l.mapM f = .ok m) :
    Forall₂ (fun a b => f a = .ok b) l m := by
  induction l generalizing m with
  | nil =>
    cases h
    exact .nil
  | cons a l ih =>
    rw [List.mapM_cons] at h
    cases ha : f a with
    | error e =>
      rw [ha] at h
      cases h
    | ok b =>
      cases hl : l.mapM f with
      | error e =>
        rw [ha, hl] at h
        cases h
      | ok bs =>
        rw [ha, hl] at h
        cases h
        exact .cons ha (ih hl)

theorem forall₂_with_mem {R : α → β → Prop} (h : Forall₂ R l m) :
    Forall₂ (fun a b => b ∈ m ∧ R a b) l m :=
  ((List.forall₂_and_left m l).mpr ⟨fun _ hb => hb, h.flip⟩).flip

end Answers

/-! ## Depth -/

namespace Value

mutual

/-- How many sets stand inside one another. What is in a list is not looked at. -/
def depth : Value → Nat
  | set members => greatestDepth members + 1
  | _ => 0

/-- The greatest number of sets inside one another. -/
def greatestDepth : List Value → Nat
  | [] => 0
  | v :: vs => max (depth v) (greatestDepth vs)

end

/-- What is no set equals no set. -/
theorem beq_set_of_ne {v : Value} (h : ∀ vs, v ≠ set vs) (ws : List Value) :
    (v == set ws) = false := by
  cases v with
  | set vs => exact absurd rfl (h vs)
  | _ => simp [beq_def, same]

theorem set_beq_of_ne {v : Value} (h : ∀ vs, v ≠ set vs) (ws : List Value) :
    (set ws == v) = false := by
  cases v with
  | set vs => exact absurd rfl (h vs)
  | _ => simp [beq_def, same]

theorem greatestDepth_le_iff {vs : List Value} {n : Nat} :
    greatestDepth vs ≤ n ↔ ∀ v ∈ vs, v.depth ≤ n := by
  induction vs with
  | nil => simp [greatestDepth]
  | cons v vs ih => rw [greatestDepth, Nat.max_le, ih, List.forall_mem_cons]

theorem depth_set_le_iff {vs : List Value} {n : Nat} :
    (set vs).depth ≤ n + 1 ↔ ∀ v ∈ vs, v.depth ≤ n := by
  rw [depth, Nat.add_le_add_iff_right, greatestDepth_le_iff]

end Value

namespace Shelf

variable {s : Shelf} {e f : Entry} {v w : Value}

/-- The entry is the value at present. -/
def Shows (s : Shelf) (e : Entry) (v : Value) : Prop := ∃ depth, s.valueWithin depth e = .ok v

theorem shows_value {v w : Value} : s.Shows (.value v) w ↔ w = v := by
  constructor
  · rintro ⟨depth, h⟩
    rw [valueWithin] at h
    exact (Except.ok.inj h).symm
  · rintro rfl
    exact ⟨0, rfl⟩

/-- The set at a place is the set of what its entries are. -/
theorem Shows.place {n : Nat} (h : s.Shows (.place n) v) :
    ∃ vs, v = .set vs ∧ Forall₂ s.Shows (s.entriesAt n) vs := by
  obtain ⟨depth, h⟩ := h
  cases depth with
  | zero => cases h
  | succ depth =>
    rw [valueWithin] at h
    cases hall : (s.entriesAt n).mapM (s.valueWithin depth) with
    | error e =>
      rw [hall] at h
      cases h
    | ok vs =>
      rw [hall] at h
      refine ⟨vs, (Except.ok.inj h).symm, ?_⟩
      exact (forall₂_of_mapM_eq_ok hall).imp fun _ _ he => ⟨depth, he⟩

/-- An entry with members is a set of what they are. -/
theorem Shows.set {es : List Entry} (h : s.Shows e v) (he : s.setMembers? e = some es) :
    ∃ vs, v = .set vs ∧ Forall₂ s.Shows es vs := by
  cases e with
  | place n =>
    cases he
    exact h.place
  | value u =>
    rw [shows_value] at h
    cases u with
    | set members =>
      cases he
      refine ⟨members, h, ?_⟩
      rw [List.forall₂_map_left_iff, List.forall₂_same]
      exact fun u _ => shows_value.mpr rfl
    | _ => cases he

/-- An entry without members is a value of its own, and no set. -/
theorem Shows.plain (h : s.Shows e v) (he : s.setMembers? e = none) :
    e = .value v ∧ ∀ vs, v ≠ .set vs := by
  cases e with
  | place n => cases he
  | value u =>
    rw [shows_value] at h
    subst h
    refine ⟨rfl, ?_⟩
    rintro vs rfl
    cases he

theorem Shows.isNone_or_isNone (he : s.Shows e v) (hf : s.Shows f w)
    (h : v.depth ≤ 0 ∨ w.depth ≤ 0) : s.setMembers? e = none ∨ s.setMembers? f = none := by
  cases hes : s.setMembers? e with
  | none => exact Or.inl rfl
  | some es => cases hfs : s.setMembers? f with
    | none => exact Or.inr rfl
    | some fs =>
      obtain ⟨vs, rfl, -⟩ := he.set hes
      obtain ⟨ws, rfl, -⟩ := hf.set hfs
      simp [Value.depth] at h

/-- What is no set equals no set at a place. -/
theorem samePlain_eq (he : s.Shows e v) (hf : s.Shows f w)
    (h : s.setMembers? e = none ∨ s.setMembers? f = none) : samePlain e f = (v == w) := by
  rcases h with h | h
  · obtain ⟨rfl, hplain⟩ := he.plain h
    cases f with
    | value u =>
      obtain rfl := shows_value.mp hf
      rfl
    | place n =>
      obtain ⟨ws, rfl, -⟩ := hf.place
      exact (Value.beq_set_of_ne hplain ws).symm
  · obtain ⟨rfl, hplain⟩ := hf.plain h
    cases e with
    | value u =>
      obtain rfl := shows_value.mp he
      rfl
    | place n =>
      obtain ⟨vs, rfl, -⟩ := he.place
      exact (Value.set_beq_of_ne hplain vs).symm

/-- Two entries are compared as the values that they are at present, if one of them has no more
sets inside one another than the comparison goes down. -/
theorem sameWithin_eq {n : Nat} (he : s.Shows e v) (hf : s.Shows f w)
    (h : v.depth ≤ n ∨ w.depth ≤ n) : s.sameWithin n e f = .ok (v == w) := by
  induction n generalizing e f v w with
  | zero =>
    have hplain := he.isNone_or_isNone hf h
    rw [sameWithin, samePlain_eq he hf hplain, if_neg]
    rcases hplain with hplain | hplain <;> simp [hplain]
  | succ n ih =>
    cases hes : s.setMembers? e with
    | none => rw [sameWithin, hes, samePlain_eq he hf (Or.inl hes)]
    | some es => cases hfs : s.setMembers? f with
      | none =>
        rw [sameWithin, hfs, samePlain_eq he hf (Or.inr hfs)]
        simp
      | some fs =>
        obtain ⟨vs, rfl, hvs⟩ := he.set hes
        obtain ⟨ws, rfl, hws⟩ := hf.set hfs
        have hdepth : ∀ x ∈ vs, ∀ y ∈ ws, y.depth ≤ n ∨ x.depth ≤ n := by
          rcases h with h | h
          · exact fun x hx y _ => Or.inr (Value.depth_set_le_iff.mp h x hx)
          · exact fun x _ y hy => Or.inl (Value.depth_set_le_iff.mp h y hy)
        have hany : Forall₂ (fun x v => (fs.anyM fun y => s.sameWithin n y x) =
            .ok (ws.any (· == v))) es vs := by
          refine (forall₂_with_mem hvs).imp fun x v hx => anyM_eq_ok ?_
          exact (forall₂_with_mem hws).imp fun y w hy =>
            ih hy.2 hx.2 (hdepth v hx.1 w hy.1)
        rw [sameWithin, hes, hfs, Value.set_beq_set]
        dsimp only
        rw [allM_eq_ok hany, hvs.length_eq, hws.length_eq]
        by_cases hlength : vs.length = ws.length <;> simp [hlength]

end Shelf

/-! ## All of it -/

namespace Value

/-- On built values equality is an equivalence, however deep they are. Sets are equal when each
member of either equals a member of the other, and inferences when they have the same premises and
one conclusion, so that they are known by the same key. And entries on a shelf are compared as the
values that they are at present, however far down the comparison has to go. -/
theorem equality_at_every_depth :
    (∀ x : Value, x.IsBuilt → (x == x) = true) ∧
      (∀ x y : Value, x.IsBuilt → y.IsBuilt → (x == y) = true → (y == x) = true) ∧
      (∀ x y z : Value, x.IsBuilt → y.IsBuilt → z.IsBuilt → (x == y) = true → (y == z) = true →
        (x == z) = true) ∧
      (∀ xs ys : List Value, (set xs).IsBuilt → (set ys).IsBuilt →
        ((set xs == set ys) = true ↔
          (∀ x ∈ xs, ∃ y ∈ ys, (x == y) = true) ∧ ∀ y ∈ ys, ∃ x ∈ xs, (y == x) = true)) ∧
      (∀ i j : Inference, (inference i == inference j) = (i == j) ∧
        ((i == j) = true ↔ (∀ s, s ∈ i.premises.toList ↔ s ∈ j.premises.toList) ∧
          i.conclusion = j.conclusion) ∧
        ((i == j) = true → i.key = j.key)) ∧
      ∀ (s : Shelf) (e f : Entry) (x y : Value) (n : Nat), s.valueOf e = .ok x →
        s.valueOf f = .ok y → x.depth ≤ n ∨ y.depth ≤ n → s.sameWithin n e f = .ok (x == y) := by
  refine ⟨?_, ?_, ?_, ?_, ?_, ?_⟩
  · intro x hx
    exact BEq.rfl (a := (⟨x, hx⟩ : {v : Value // v.IsBuilt}))
  · intro x y hx hy h
    exact BEq.symm (a := (⟨x, hx⟩ : {v : Value // v.IsBuilt})) (b := ⟨y, hy⟩) h
  · intro x y z hx hy hz hxy hyz
    exact BEq.trans (a := (⟨x, hx⟩ : {v : Value // v.IsBuilt})) (b := ⟨y, hy⟩) (c := ⟨z, hz⟩)
      hxy hyz
  · intro xs ys hxs hys
    exact set_beq_set_iff hxs hys
  · intro i j
    exact ⟨inference_beq_inference i j, Inference.beq_iff, Inference.key_eq_key_iff.mpr⟩
  · intro s e f x y n he hf h
    exact Shelf.sameWithin_eq ⟨_, he⟩ ⟨_, hf⟩ h

/-- A set with a set in it, and one that is equal to it but for the order on both levels. The first
stands on a shelf, with its member at a place of its own. -/
theorem equality_at_every_depth_twoSets :
    let x : Value := set [set [text "red", text "blue"], number 3]
    let y : Value := set [number 3, set [text "blue", text "red"]]
    let shelf : Shelf :=
      { sets := [[.value (text "red"), .value (text "blue")], [.place 0, .value (number 3)]] }
    (x.IsBuilt ∧ y.IsBuilt ∧ shelf.valueOf (.place 1) = .ok x ∧ x.depth = 2) ∧
      (x == x) = true ∧ (x == y) = true ∧ (y == x) = true ∧
      shelf.sameWithin 2 (.place 1) (.value y) = .ok true := by
  intro x y shelf
  obtain ⟨hrefl, hsymm, -, -, -, hshelf⟩ := equality_at_every_depth
  have hpair : ∀ s t : Text, s ≠ t → (set [text s, text t]).IsBuilt := by
    intro s t hst
    have hmembers : ∀ v ∈ [text s, text t], v.IsBuilt := by
      rintro v (_ | ⟨_, _ | ⟨_, ⟨⟩⟩⟩) <;> exact .text _
    exact isBuilt_set_iff.mpr ⟨hmembers, by simpa [text_beq_text] using hst⟩
  have hx : x.IsBuilt := by
    have hmembers : ∀ v ∈ [set [text "red", text "blue"], number 3], v.IsBuilt := by
      rintro v (_ | ⟨_, _ | ⟨_, ⟨⟩⟩⟩)
      · exact hpair "red" "blue" (by decide)
      · exact .number 3
    exact isBuilt_set_iff.mpr ⟨hmembers, by decide +kernel⟩
  have hy : y.IsBuilt := by
    have hmembers : ∀ v ∈ [number 3, set [text "blue", text "red"]], v.IsBuilt := by
      rintro v (_ | ⟨_, _ | ⟨_, ⟨⟩⟩⟩)
      · exact .number 3
      · exact hpair "blue" "red" (by decide)
    exact isBuilt_set_iff.mpr ⟨hmembers, by decide +kernel⟩
  have heq : (x == y) = true := by decide +kernel
  have hplace : shelf.valueOf (.place 1) = .ok x := by rfl
  refine ⟨⟨hx, hy, hplace, by decide⟩, hrefl x hx, heq, hsymm x y hx hy heq, ?_⟩
  rw [hshelf shelf (.place 1) (.value y) x y 2 hplace rfl (Or.inl (by decide)), heq]

end Value

end Discourse
