import Discourse.Command
import Discourse.Text.Blank
import Discourse.Text.WordChar
import Mathlib.Data.List.Infix

/-!
# Spellings

One command can be written in many ways: with more or fewer blanks, with or without a colon or a
final period, a sentence with or without double quotes, a list bare or in brackets and with commas
or semicolons. A spelling is one choice of all that, and gives a line.

* `Spelling.Gap`, `Spelling.Space`: blanks.
* `Spelling.IsName`, `Spelling.Sayable`, `Spelling.Clean`: names and sentences that can be written.
* `Spelling.Speech.line`: what one agent says about a sentence.
* `Spelling.withdrawal`: how a challenge is taken back.
* `Spelling.Enumeration`: a list of sentences.
* `Spelling.InferenceText`, `Spelling.SetText`: a rule.
* `Spelling.InferenceLine.line`, `Spelling.IncompatibilityLine.line`: the edit of a rule.
-/

namespace Discourse.Spelling

/-! ## Blanks and marks -/

/-- Blanks, or none. -/
structure Gap where
  chars : List Char := []
  blank : ∀ c ∈ chars, Text.isBlank c = true := by exact List.all_eq_true.mp (by decide)

/-- At least one blank. -/
structure Space extends Gap where
  chars := [' ']
  blank := by exact List.all_eq_true.mp (by decide)
  nonempty : chars ≠ [] := by decide

/-- A mark that may be left out. -/
def optional (mark : Char) (present : Bool) : List Char := if present then [mark] else []

/-! ## Names and sentences -/

/-- The text is a name that can be written in a line. -/
def IsName (s : String) : Prop := s ≠ "" ∧ ∀ c ∈ s.toList, Text.isWordChar c = true

instance : DecidablePred IsName := fun s =>
  @instDecidableAnd _ _ _ (List.decidableBAll (Text.isWordChar · = true) s.toList)

/-- The text is a sentence that can be said in a line, as it stands or in double quotes. -/
structure Sayable (s : String) : Prop where
  nonempty : s ≠ ""
  trimmed : Text.trim s = s
  noPeriod : '.' ∉ s.toList
  noQuote : '"' ∉ s.toList

instance : DecidablePred Sayable := fun s =>
  decidable_of_iff (s ≠ "" ∧ Text.trim s = s ∧ '.' ∉ s.toList ∧ '"' ∉ s.toList)
    ⟨fun h => ⟨h.1, h.2.1, h.2.2.1, h.2.2.2⟩,
      fun h => ⟨h.nonempty, h.trimmed, h.noPeriod, h.noQuote⟩⟩

/-- The text is a sentence that can be written in a rule. -/
structure Clean (s : String) : Prop where
  nonempty : s ≠ ""
  trimmed : Text.trim s = s
  noMark : ∀ c ∈ [',', ';', '[', ']', '{', '}', '.'], c ∉ s.toList
  noSign : ¬ ['|', '-'] <:+: s.toList

instance : DecidablePred Clean := fun s =>
  decidable_of_iff (s ≠ "" ∧ Text.trim s = s ∧
      [',', ';', '[', ']', '{', '}', '.'].all (!s.toList.contains ·) = true ∧
      ¬ ['|', '-'] <:+: s.toList)
    ⟨fun h => ⟨h.1, h.2.1, fun c hc => by simpa using List.all_eq_true.mp h.2.2.1 c hc, h.2.2.2⟩,
      fun h => ⟨h.nonempty, h.trimmed,
        List.all_eq_true.mpr fun c hc => by simpa using h.noMark c hc, h.noSign⟩⟩

/-! ## Speech -/

/-- How one agent says something about a sentence. -/
structure Speech where
  lead : Gap := {}
  afterName : Space := {}
  colon : Bool := false
  afterVerb : Space := {}
  quoted : Bool := false
  period : Bool := false
  trail : Gap := {}

/-- The line in which it is said. -/
def Speech.line (w : Speech) (speaker verb sentence : String) : String :=
  String.ofList (w.lead.chars ++ (speaker.toList ++ (w.afterName.chars ++ (verb.toList ++
    (optional ':' w.colon ++ (w.afterVerb.chars ++ (optional '"' w.quoted ++ (sentence.toList ++
      (optional '"' w.quoted ++ (optional '.' w.period ++ w.trail.chars))))))))))

/-! ## Challenges -/

/-- The sentence as it is written; the empty one is written as two double quotes. -/
def wording (sentence : String) : String := if sentence = "" then "\"\"" else sentence

/-- The line in which the speaker takes back a challenge. -/
def withdrawal (speaker target sentence : String) : String :=
  speaker ++ " withdraws his challenge to " ++ target ++ "'s entitlement to " ++ wording sentence

/-! ## Lists of sentences -/

/-- What stands between two sentences of a list. -/
structure Separator where
  before : Gap := {}
  semicolon : Bool := false
  after : Gap := { chars := [' '] }

/-- The characters between two sentences. -/
def Separator.chars (w : Separator) : List Char :=
  w.before.chars ++ ((if w.semicolon then ';' else ',') :: w.after.chars)

/-- What stands around a list. -/
inductive Brackets where
  | bare
  | square
  | curly
  deriving DecidableEq, Repr

/-- What stands before a list. -/
def Brackets.left : Brackets → List Char
  | bare => []
  | square => ['[']
  | curly => ['{']

/-- What stands after a list. -/
def Brackets.right : Brackets → List Char
  | bare => []
  | square => [']']
  | curly => ['}']

/-- A list of sentences. -/
structure Enumeration where
  brackets : Brackets := .bare
  inner : Gap := {}
  first : String
  rest : List (Separator × String) := []
  outer : Gap := {}

namespace Enumeration

/-- The sentences of the list. -/
def items (w : Enumeration) : List String := w.first :: w.rest.map Prod.snd

/-- The characters of the sentences and of what stands between them. -/
def body (w : Enumeration) : List Char :=
  w.first.toList ++ w.rest.flatMap fun (separator, s) => separator.chars ++ s.toList

/-- The characters of the list. -/
def chars (w : Enumeration) : List Char :=
  w.brackets.left ++ (w.inner.chars ++ (w.body ++ (w.outer.chars ++ w.brackets.right)))

/-- The list as it is shown. -/
def shown (first : String) (rest : List String) : Enumeration where
  brackets := .curly
  first := first
  rest := rest.map fun s => ({}, s)

end Enumeration

/-! ## Rules -/

/-- An inference in words. -/
structure InferenceText where
  premises : Enumeration
  beforeSign : Gap := { chars := [' '] }
  afterSign : Gap := { chars := [' '] }
  conclusion : String
  period : Bool := false

/-- The characters of the inference. -/
def InferenceText.chars (w : InferenceText) : List Char :=
  w.premises.chars ++ (w.beforeSign.chars ++ ("|-".toList ++ (w.afterSign.chars ++
    (w.conclusion.toList ++ optional '.' w.period))))

/-- The premises are these sentences, in any order and as often as one likes, and the conclusion is
this one. -/
def InferenceText.Says (w : InferenceText) (premises : List String) (conclusion : String) : Prop :=
  (∀ s, s ∈ w.premises.items ↔ s ∈ premises) ∧ w.conclusion = conclusion

/-- An incompatibility in words. -/
structure SetText where
  sentences : Enumeration
  period : Bool := false

/-- The characters of the incompatibility. -/
def SetText.chars (w : SetText) : List Char := w.sentences.chars ++ optional '.' w.period

/-- The sentences are these, in any order and as often as one likes. -/
def SetText.Says (w : SetText) (sentences : List String) : Prop :=
  ∀ s, s ∈ w.sentences.items ↔ s ∈ sentences

/-- How a line begins that edits a rule. -/
structure Heading where
  lead : Gap := {}
  afterName : Space := {}
  afterVerb : Space := {}
  colon : Bool := false
  afterHeading : Space := {}

/-- A line that edits a rule: what is edited comes before the colon, the rule after it. -/
def Heading.line (w : Heading) (speaker : String) (edit : Edit) (what rule : List Char) : String :=
  String.ofList (w.lead.chars ++ (speaker.toList ++ (w.afterName.chars ++ (edit.verb.toList ++
    (w.afterVerb.chars ++ (what ++ (optional ':' w.colon ++ (w.afterHeading.chars ++ rule))))))))

/-- How an inference is added or removed. -/
structure InferenceLine extends Heading where
  afterKind : Space := {}
  rule : InferenceText
  trail : Gap := {}

/-- The inference in its plainest spelling. -/
def InferenceLine.plain (first : String) (rest : List String) (conclusion : String) :
    InferenceLine where
  rule := { premises := { first, rest := rest.map fun s => ({}, s) }, conclusion }

/-- The line that adds or removes the inference. -/
def InferenceLine.line (w : InferenceLine) (speaker : String) (edit : Edit)
    (kind : InferenceKind) : String :=
  w.toHeading.line speaker edit (kind.word.toList ++ (w.afterKind.chars ++ "inference".toList))
    (w.rule.chars ++ w.trail.chars)

/-- How an incompatibility is added or removed. -/
structure IncompatibilityLine extends Heading where
  rule : SetText
  trail : Gap := {}

/-- The line that adds or removes the incompatibility. -/
def IncompatibilityLine.line (w : IncompatibilityLine) (speaker : String) (edit : Edit) : String :=
  w.toHeading.line speaker edit "incompatibility".toList (w.rule.chars ++ w.trail.chars)

end Discourse.Spelling
