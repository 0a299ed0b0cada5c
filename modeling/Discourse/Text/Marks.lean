/-!
# Sets of code points given by their marks

A set of numbers is written as the ascending list of its marks: the places where membership
changes, the first of them where the set begins. `[48, 58]` is the set of the ten numbers from 48
to 57. A property of characters is such a list, and a number is inside when an odd number of
marks lie at or below it.

* `insideMarks_of_lt`: nothing before the first mark is inside.
* `insideMarks_cons_of_le`: each mark passed flips the answer.
-/

namespace Discourse.Text

/-- Whether an odd number of the ascending `marks` lie at or below `n`. -/
def insideMarks : List Nat → Nat → Bool
  | [], _ => false
  | m :: marks, n => if n < m then false else !insideMarks marks n

@[simp] theorem insideMarks_nil (n : Nat) : insideMarks [] n = false := rfl

theorem insideMarks_of_lt {m n : Nat} (marks : List Nat) (h : n < m) :
    insideMarks (m :: marks) n = false := by
  simp [insideMarks, h]

theorem insideMarks_cons_of_le {m n : Nat} (marks : List Nat) (h : m ≤ n) :
    insideMarks (m :: marks) n = !insideMarks marks n := by
  simp [insideMarks, Nat.not_lt.mpr h]

end Discourse.Text
