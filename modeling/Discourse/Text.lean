import Discourse.CodePoint

/-!
# Texts

A text is a row of code points: a name, a sentence, an answer. What a person types consists of
characters, and so every `String` is a text. A text that is read from escapes may hold halves of
pairs besides, and then it has no bytes.

* `Text.ofString` and `Text.toString?`: the text of a string, and back if it has no halves.
* `Text.append`, `Text.join`, `Text.intercalate`: longer texts.
* `Text.isAtMost`: the order of texts, by the numbers of their code points.
-/

namespace Discourse

/-- A row of code points. -/
@[ext]
structure Text where
  points : List CodePoint
  deriving DecidableEq, Repr, Inhabited

namespace Text

/-! ## Characters -/

/-- The text of some characters. -/
def ofChars (cs : List Char) : Text := ⟨cs.map .char⟩

/-- The text of a string. -/
def ofString (s : String) : Text := ofChars s.toList

instance : Coe String Text := ⟨ofString⟩

/-- The characters of a text, without what is no character. -/
def chars (t : Text) : List Char := t.points.filterMap CodePoint.char?

/-- Whether a text consists of characters. -/
def isWhole (t : Text) : Bool := t.points.all fun p => !p.isHalf

/-- The string that a text is, if it consists of characters. -/
def toString? (t : Text) : Option String :=
  if t.isWhole then some (String.ofList t.chars) else none

@[simp] theorem points_ofChars (cs : List Char) : (ofChars cs).points = cs.map .char := rfl

@[simp] theorem chars_ofChars (cs : List Char) : (ofChars cs).chars = cs := by
  induction cs with
  | nil => rfl
  | cons c cs ih =>
    rw [chars, points_ofChars, List.map_cons, List.filterMap_cons]
    exact congrArg (c :: ·) ih

@[simp] theorem isWhole_ofChars (cs : List Char) : (ofChars cs).isWhole = true := by
  simp [isWhole, CodePoint.isHalf]

@[simp] theorem toString?_ofString (s : String) : (ofString s).toString? = some s := by
  simp [ofString, toString?]

/-! ## Longer texts -/

/-- The first text, then the second. -/
protected def append (s t : Text) : Text := ⟨s.points ++ t.points⟩

instance : Append Text := ⟨Text.append⟩

@[simp] theorem points_append (s t : Text) : (s ++ t).points = s.points ++ t.points := rfl

/-- The texts one after another. -/
def join (texts : List Text) : Text := ⟨texts.flatMap points⟩

/-- The texts one after another, the separator between any two. -/
def intercalate (separator : Text) (texts : List Text) : Text :=
  ⟨separator.points.intercalate (texts.map points)⟩

/-! ## Parts -/

/-- Whether there is no code point. -/
def isEmpty (t : Text) : Bool := t.points.isEmpty

/-- The code points as texts of their own. -/
def singles (t : Text) : List Text := t.points.map fun p => ⟨[p]⟩

/-! ## Order -/

/-- Whether the first numbers come before the second, or are the same. -/
def areAtMost : List Nat → List Nat → Bool
  | [], _ => true
  | _ :: _, [] => false
  | m :: ms, n :: ns => m < n || (m == n && areAtMost ms ns)

/-- Whether a text comes before another one, or is the same. -/
def isAtMost (s t : Text) : Bool :=
  areAtMost (s.points.map CodePoint.number) (t.points.map CodePoint.number)

end Text

end Discourse
