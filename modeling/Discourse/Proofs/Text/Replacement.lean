import Discourse.Text
import Discourse.Text.Split
import Mathlib.Data.List.Infix

/-!
# Replacing a part

A part is replaced wherever it stands, from left to right. What is read off the definition: what
becomes of a list that begins with the part, and of one that does not.

* `replaceAll_append`, `replaceAll_cons`: one step.
* `replaceAll_singleton`: a part of one member is replaced member by member.
* `replace`: the same for texts.
-/

namespace Discourse.Text

section Lists

variable {α : Type} [BEq α] {part substitute : List α} {c : α}

theorem replaceFrom_eq (part substitute : List α) (skipped : Nat) (cs : List α) :
    replaceFrom part substitute skipped cs = replaceAll part substitute (cs.drop skipped) := by
  induction skipped generalizing cs with
  | zero => rfl
  | succ skipped ih =>
    cases cs with
    | nil => rfl
    | cons c cs => exact ih cs

theorem replaceAll_append [LawfulBEq α] (h : part ≠ []) (substitute cs : List α) :
    replaceAll part substitute (part ++ cs) = substitute ++ replaceAll part substitute cs := by
  obtain ⟨a, part, rfl⟩ := List.exists_cons_of_ne_nil h
  have hfront : (a :: part).isPrefixOf (a :: part ++ cs) = true :=
    List.isPrefixOf_iff_prefix.mpr (List.prefix_append (a :: part) cs)
  have hstep : replaceAll (a :: part) substitute (a :: part ++ cs) =
      substitute ++ replaceFrom (a :: part) substitute part.length (part ++ cs) :=
    if_pos hfront
  rw [hstep, replaceFrom_eq, List.drop_left]

theorem replaceAll_cons {cs : List α} (h : part.isPrefixOf (c :: cs) = false) :
    replaceAll part substitute (c :: cs) = c :: replaceAll part substitute cs :=
  if_neg (Bool.eq_false_iff.mp h)

/-- A part of one member is replaced member by member. -/
theorem replaceAll_singleton [LawfulBEq α] (a : α) (substitute cs : List α) :
    replaceAll [a] substitute cs = cs.flatMap fun c => if a == c then substitute else [c] := by
  induction cs with
  | nil => rfl
  | cons c cs ih =>
    rw [List.flatMap_cons, ← ih]
    by_cases h : a = c
    · subst h
      rw [if_pos (beq_self_eq_true a)]
      exact replaceAll_append (List.cons_ne_nil a []) substitute cs
    · have hother : (a == c) = false := beq_false_of_ne h
      rw [hother]
      apply replaceAll_cons
      rw [List.isPrefixOf_cons_cons, hother, Bool.false_and]

end Lists

/-- The text with the substitute wherever the part stands. -/
def replace (part substitute t : Text) : Text :=
  ⟨replaceAll part.points substitute.points t.points⟩

end Discourse.Text
