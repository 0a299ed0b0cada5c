/-!
# Splitting a text

A text is cut at the characters of a class. The pieces are what stands between them, so there is
one piece more than there are cuts, and a piece may be empty.

* `splitWhere_ne_nil`: there is always a piece.
* `splitFirst`: what stands before the first such character, and what after it.
* `replaceAll`, `removeAll`: a text with another one, or with nothing, wherever a part stands.
-/

namespace Discourse.Text

/-- The pieces between the characters that satisfy `cut`. -/
def splitWhere (cut : Char → Bool) : List Char → List (List Char)
  | [] => [[]]
  | c :: cs =>
    if cut c then [] :: splitWhere cut cs
    else
      match splitWhere cut cs with
      | [] => [[c]]
      | piece :: pieces => (c :: piece) :: pieces

theorem splitWhere_ne_nil (cut : Char → Bool) (cs : List Char) : splitWhere cut cs ≠ [] := by
  cases cs with
  | nil => simp [splitWhere]
  | cons c cs =>
    unfold splitWhere
    split
    · simp
    · split <;> simp

/-- What stands before and after the first `cut`; none when there is no `cut`. -/
def splitFirst (cut : Char) : List Char → Option (List Char × List Char)
  | [] => none
  | c :: cs =>
    if c == cut then some ([], cs)
    else (splitFirst cut cs).map fun (before, after) => (c :: before, after)

/-- The list without its first `skipped` members, and with the substitute in the place of the part
wherever it stands, each place sought after the one before it. -/
def replaceFrom {α : Type} [BEq α] (part substitute : List α) : Nat → List α → List α
  | _, [] => []
  | skipped + 1, _ :: cs => replaceFrom part substitute skipped cs
  | 0, c :: cs =>
    if part.isPrefixOf (c :: cs) then
      substitute ++ replaceFrom part substitute (part.length - 1) cs
    else c :: replaceFrom part substitute 0 cs

/-- The list with the substitute wherever the part stands. -/
def replaceAll {α : Type} [BEq α] (part substitute cs : List α) : List α :=
  replaceFrom part substitute 0 cs

/-- The characters without the places where the part stands. -/
def removeAll (part cs : List Char) : List Char := replaceAll part [] cs

end Discourse.Text
