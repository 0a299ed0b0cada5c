/-!
# Blanks

The characters that separate words and that are cut off at the ends of a text: the white space
of Unicode, and the four information separators U+001C to U+001F, which are not white space
there. The zero-width space and the byte order mark are no blanks.

* `isBlank_of_isWhitespace`: what core calls white space is blank.
* `trim`: a text without the blanks at its two ends.
-/

namespace Discourse.Text

/-- Whether `c` is white space or an information separator. -/
def isBlank (c : Char) : Bool :=
  let n := c.toNat
  (9 ≤ n && n ≤ 13) || (28 ≤ n && n ≤ 32) || n == 0x85 || n == 0xA0 || n == 0x1680 ||
    (0x2000 ≤ n && n ≤ 0x200A) || n == 0x2028 || n == 0x2029 || n == 0x202F || n == 0x205F ||
    n == 0x3000

/-- Whether `c` is an information separator, a blank that is not white space. -/
def isSeparator (c : Char) : Bool := 28 ≤ c.toNat && c.toNat ≤ 31

/-- Whether `c` has the Unicode property White_Space. -/
def isSpace (c : Char) : Bool := isBlank c && !isSeparator c

theorem isBlank_of_isWhitespace {c : Char} (h : c.isWhitespace = true) : isBlank c = true := by
  simp only [Char.isWhitespace, Bool.or_eq_true, decide_eq_true_eq] at h
  rcases h with ((h | h) | h) | h <;> subst h <;> decide

/-! ## Cutting the ends -/

/-- `cs` without the characters of the class at its two ends. -/
def stripChars (cls : Char → Bool) (cs : List Char) : List Char :=
  ((cs.dropWhile cls).reverse.dropWhile cls).reverse

/-- `s` without the blanks at its two ends. -/
def trim (s : String) : String := String.ofList (stripChars isBlank s.toList)

end Discourse.Text
