import Discourse.Text

/-!
# Text inside a page

A text that goes into a page has its five markup characters written as entities, so that it can
open or close nothing there.

* `escape`: the text as it stands in a page.
-/

namespace Discourse.Text

/-- The entity of a markup character; any other character as it is. -/
def escapeChar : Char → List Char
  | '&' => ['&', 'a', 'm', 'p', ';']
  | '<' => ['&', 'l', 't', ';']
  | '>' => ['&', 'g', 't', ';']
  | '"' => ['&', 'q', 'u', 'o', 't', ';']
  | '\'' => ['&', '#', 'x', '2', '7', ';']
  | c => [c]

/-- The entity of a markup character; any other code point as it is. -/
def escapePoint : CodePoint → List CodePoint
  | .char c => (escapeChar c).map .char
  | p => [p]

/-- The text with each markup character as its entity. -/
def escape (t : Text) : Text := ⟨t.points.flatMap escapePoint⟩

theorem escape_append (s t : Text) : escape (s ++ t) = escape s ++ escape t := by
  ext1
  simp [escape]

end Discourse.Text
