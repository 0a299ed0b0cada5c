import Discourse.Text
import Mathlib.Data.List.Lex

/-!
# The order of texts

Texts are ordered by the numbers of their code points, the first difference deciding. This order is
linear: any two texts can be compared, and two texts that are at most each other are the same.

* `Text.isAtMost_iff`: the comparison is that of the lists of numbers.
* `Text.number_injective`, `Text.numbers_injective`: code points and texts are told apart by it.
-/

namespace Discourse.Text

theorem areAtMost_iff {ms ns : List Nat} : areAtMost ms ns = true ↔ ms ≤ ns := by
  induction ms generalizing ns with
  | nil => simp [areAtMost, ← not_lt]
  | cons m ms ih =>
    cases ns with
    | nil => simp [areAtMost, ← not_lt]
    | cons n ns =>
      have hrest : areAtMost ms ns = true ↔ ¬ ns < ms := ih.trans not_lt.symm
      rw [areAtMost, Bool.or_eq_true, Bool.and_eq_true, decide_eq_true_eq, beq_iff_eq, hrest,
        ← not_lt, List.cons_lt_cons_iff]
      rcases lt_trichotomy m n with h | rfl | h
      · simp [h, h.not_gt, h.ne']
      · simp
      · simp [h, h.not_gt, h.ne']

/-- The numbers of the code points of a text. -/
def numbers (t : Text) : List Nat := t.points.map CodePoint.number

theorem isAtMost_iff {s t : Text} : s.isAtMost t = true ↔ s.numbers ≤ t.numbers := areAtMost_iff

theorem number_injective : Function.Injective CodePoint.number :=
  Function.LeftInverse.injective CodePoint.ofNumber_number

theorem numbers_injective : Function.Injective numbers := by
  intro s t h
  ext1
  exact number_injective.list_map h

end Discourse.Text
