import Discourse.Text
import Discourse.Text.Hexadecimal

/-!
# Lone halves

A text with half a pair in it has no bytes. The complaint names the first place where halves
stand.

* `loneHalves?`: the first halves in a text, none if it consists of characters.
* `LoneHalves.message`: the complaint about them.
-/

namespace Discourse.Text

/-- Halves that stand next to one another in a text: the place of the first, and their numbers. -/
structure LoneHalves where
  place : Nat
  numbers : List Nat
  deriving DecidableEq, Repr

/-- The first halves in a text. -/
def loneHalves? (t : Text) : Option LoneHalves :=
  let rest := t.points.dropWhile fun p => !p.isHalf
  if rest.isEmpty then none
  else
    some ⟨t.points.length - rest.length, (rest.takeWhile CodePoint.isHalf).map CodePoint.number⟩

theorem loneHalves?_eq_none_iff {t : Text} : t.loneHalves? = none ↔ t.isWhole = true := by
  rw [loneHalves?, isWhole]
  generalize t.points.length = n
  induction t.points with
  | nil => simp
  | cons p ps ih => cases h : p.isHalf <;> simp_all

/-- The complaint about halves in a text that has to be written as bytes. -/
def LoneHalves.message (h : LoneHalves) : String :=
  let what :=
    match h.numbers with
    | [n] =>
      "character '\\u" ++ String.ofList (hexDigits 4 n) ++ "' in position " ++ toString h.place
    | ns =>
      "characters in position " ++ toString h.place ++ "-" ++ toString (h.place + ns.length - 1)
  "'utf-8' codec can't encode " ++ what ++ ": surrogates not allowed"

end Discourse.Text
