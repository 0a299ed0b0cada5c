import Discourse.Inference
import Discourse.Text.Blank
import Discourse.Text.Split

/-!
# Sentences in a line

How the text of a line becomes sentences. A single sentence loses its double quotes and then the
blanks around it. A list is cut at commas and semicolons, the blanks around which belong to the
cut; its sentences keep their quotes.

* `sentenceOf`: a single sentence.
* `sentencesOf`: a list.
-/

namespace Discourse

/-- The text without double quotes. -/
def removeQuotes (text : String) : String := String.ofList (text.toList.filter (· != '"'))

/-- The sentence that a text says. -/
def sentenceOf (text : String) : Sentence := Text.trim (removeQuotes text)

/-- Whether `c` stands between the sentences of a list. -/
def isListMark (c : Char) : Bool := c == ',' || c == ';'

/-- The sentences of a list. -/
def sentencesOf (text : String) : List Sentence :=
  (Text.splitWhere isListMark text.toList).map fun piece =>
    String.ofList (Text.stripChars Text.isBlank piece)

end Discourse
