import Discourse.Game
import Mathlib.Data.List.Forall2

/-!
# Changing the first that is found

A change by name reaches the first agent that a look-up finds, and nobody else.

* `mem_modifyFirst`: who is there afterwards.
* `modifyFirst_congr`: only what the change does to the one that is found matters.
* `map_modifyFirst`: changing before or after everybody is replaced.
* `modifyFirst_append`, `exists_modifyNamed_eq`: where the change is made.
* `modifyFirst_undo`: a change that is undone.
* `find?_modifyFirst`, `find?_modifyFirst_of_disjoint`: who is found afterwards.
* `forall₂_modifyFirst`: what everybody has become.
-/

namespace Discourse.Game

variable {α β : Type} {p : α → Bool} {f f' : α → α} {as : List α}

theorem mem_modifyFirst {b : α} (h : b ∈ modifyFirst p f as) :
    b ∈ as ∨ ∃ a, as.find? p = some a ∧ b = f a := by
  induction as with
  | nil => cases h
  | cons a as ih =>
    unfold modifyFirst at h
    split at h
    next hp =>
      rcases List.mem_cons.mp h with rfl | h
      · exact Or.inr ⟨a, by simp [hp], rfl⟩
      · exact Or.inl (List.mem_cons_of_mem a h)
    next hp =>
      rcases List.mem_cons.mp h with rfl | h
      · exact Or.inl List.mem_cons_self
      · rcases ih h with h | ⟨c, hc, rfl⟩
        · exact Or.inl (List.mem_cons_of_mem a h)
        · exact Or.inr ⟨c, by simpa [hp] using hc, rfl⟩

theorem modifyFirst_congr (h : ∀ a, as.find? p = some a → f a = f' a) :
    modifyFirst p f as = modifyFirst p f' as := by
  induction as with
  | nil => rfl
  | cons a as ih =>
    rw [modifyFirst, modifyFirst]
    by_cases hp : p a = true
    · rw [if_pos hp, if_pos hp, h a (List.find?_cons_of_pos hp)]
    · rw [if_neg hp, if_neg hp, ih fun b hb => h b ((List.find?_cons_of_neg hp).trans hb)]

theorem modifyFirst_eq_self (h : ∀ a, as.find? p = some a → f a = a) :
    modifyFirst p f as = as := by
  induction as with
  | nil => rfl
  | cons a as ih =>
    rw [modifyFirst]
    by_cases hp : p a = true
    · rw [if_pos hp, h a (List.find?_cons_of_pos hp)]
    · rw [if_neg hp, ih fun b hb => h b ((List.find?_cons_of_neg hp).trans hb)]

/-- A replacement that a look-up does not notice can be made before the change or after it. -/
theorem map_modifyFirst {q : β → Bool} {φ : α → β} {f' : β → β} (hq : ∀ a, q (φ a) = p a)
    (hf : ∀ a, φ (f a) = f' (φ a)) :
    (modifyFirst p f as).map φ = modifyFirst q f' (as.map φ) := by
  induction as with
  | nil => rfl
  | cons a as ih =>
    rw [modifyFirst, List.map_cons, modifyFirst, hq]
    split
    · rw [List.map_cons, hf]
    · rw [List.map_cons, ih]

/-- What is not changed in anybody is as before in the list. -/
theorem map_modifyFirst_of_eq {φ : α → β} (h : ∀ a, φ (f a) = φ a) :
    (modifyFirst p f as).map φ = as.map φ := by
  induction as with
  | nil => rfl
  | cons a as ih =>
    rw [modifyFirst]
    split
    · rw [List.map_cons, List.map_cons, h]
    · rw [List.map_cons, List.map_cons, ih]

/-- The first that is found is changed in its place. -/
theorem modifyFirst_append {a : α} {earlier later : List α} (hearlier : ∀ b ∈ earlier, p b = false)
    (ha : p a = true) : modifyFirst p f (earlier ++ a :: later) = earlier ++ f a :: later := by
  induction earlier with
  | nil => exact if_pos ha
  | cons b earlier ih =>
    obtain ⟨hb, hearlier⟩ := List.forall_mem_cons.mp hearlier
    have hfirst : ¬ p b = true := by simp [hb]
    rw [List.cons_append, modifyFirst, if_neg hfirst, ih hearlier, List.cons_append]

/-- Whoever a look-up finds is changed in its place. -/
theorem exists_modifyNamed_eq {g : Game} {name : Text} {a : Agent}
    (hfound : g.agentNamed? name = some a) (f : Agent → Agent) :
    ∃ earlier later, g.agents = earlier ++ a :: later ∧
      (g.modifyNamed name f).agents = earlier ++ f a :: later := by
  obtain ⟨hname, earlier, later, hagents, hearlier⟩ := List.find?_eq_some_iff_append.mp hfound
  have hnobody : ∀ b ∈ earlier, hasName name b = false := by simpa using hearlier
  refine ⟨earlier, later, hagents, ?_⟩
  rw [modifyNamed, hagents]
  exact modifyFirst_append hnobody hname

/-- What is changed and then changed back is as before. -/
theorem modifyFirst_undo (hf : ∀ a, p (f a) = p a) (h : ∀ a, as.find? p = some a → f' (f a) = a) :
    modifyFirst p f' (modifyFirst p f as) = as := by
  induction as with
  | nil => rfl
  | cons a as ih =>
    rw [modifyFirst]
    by_cases hp : p a = true
    · rw [if_pos hp, modifyFirst, if_pos ((hf a).trans hp), h a (List.find?_cons_of_pos hp)]
    · rw [if_neg hp, modifyFirst, if_neg hp,
        ih fun b hb => h b ((List.find?_cons_of_neg hp).trans hb)]

/-! ## Looking up afterwards -/

theorem find?_modifyFirst (hf : ∀ a, p (f a) = p a) :
    (modifyFirst p f as).find? p = (as.find? p).map f := by
  induction as with
  | nil => rfl
  | cons a as ih =>
    rw [modifyFirst]
    by_cases hp : p a = true
    · rw [if_pos hp, List.find?_cons_of_pos ((hf a).trans hp), List.find?_cons_of_pos hp,
        Option.map_some]
    · rw [if_neg hp, List.find?_cons_of_neg hp, List.find?_cons_of_neg hp, ih]

theorem find?_modifyFirst_of_disjoint {q : α → Bool} (hf : ∀ a, q (f a) = q a)
    (hpq : ∀ a, p a = true → q a = false) :
    (modifyFirst p f as).find? q = as.find? q := by
  induction as with
  | nil => rfl
  | cons a as ih =>
    rw [modifyFirst]
    by_cases hp : p a = true
    · have hq : ¬ q a = true := by simp [hpq a hp]
      rw [if_pos hp, List.find?_cons_of_neg hq, List.find?_cons_of_neg (by rwa [hf])]
    · rw [if_neg hp, List.find?_cons, List.find?_cons, ih]

/-- Whoever is not changed is related to itself. -/
theorem forall₂_modifyFirst {R : α → α → Prop} (hself : ∀ a, R a a) (hf : ∀ a, R a (f a)) :
    List.Forall₂ R as (modifyFirst p f as) := by
  induction as with
  | nil => exact .nil
  | cons a as ih =>
    rw [modifyFirst]
    split
    · exact .cons (hf a) (List.forall₂_same.mpr fun b _ => hself b)
    · exact .cons (hself a) ih

end Discourse.Game
