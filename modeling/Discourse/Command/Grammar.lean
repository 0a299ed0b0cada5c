import Discourse.Command
import Discourse.Command.Sentence
import Discourse.Pattern

/-!
# The forms of a command

Each command is written in one of a few forms. The forms are tried in order and the first one
that reads the whole line says what is asked for; a line that no form reads is no command.
Keywords are in lower case, blanks around a line are free, and a sentence ends at the first
period.

* `forms`: the forms in the order in which they are tried.
* `Command.parse?`: what a line asks for.
-/

namespace Discourse

namespace Grammar

open Pattern (text sequence maybe anyOf group few many one)

/-! ## Parts of a form -/

/-- Blanks, or none. -/
def gap : Pattern := many .blank true

/-- At least one blank. -/
def space : Pattern := Pattern.some .blank

/-- A name, kept. -/
def name : Pattern := group (Pattern.some .word)

/-- One of the characters, or nothing. -/
def optionalMark (cs : List Char) : Pattern := maybe (one (.oneOf cs))

/-- Anything up to a period, kept, as long as possible. -/
def sentence : Pattern := group (Pattern.some (.noneOf ['.']))

/-- What may end a sentence. -/
def sentenceEnd : Pattern := sequence [optionalMark ['.'], gap]

/-- A list of sentences, kept, as short as possible, bare or in brackets that need not match. -/
def sentences : Pattern :=
  sequence [optionalMark ['[', '{'], gap, group (few (.noneOf [']', '}'])), gap,
    optionalMark [']', '}']]

/-- A form, and how its kept parts become a command. -/
structure Form where
  pattern : Pattern
  command? : List String → Option Command

/-- A form for which nothing is kept. -/
def bare (parts : List Pattern) (c : Command) : Form where
  pattern := sequence (gap :: parts ++ [gap])
  command?
    | [] => some c
    | _ => none

/-- A form that keeps one part. -/
def withOne (parts : List Pattern) (c : String → Command) : Form where
  pattern := sequence (gap :: parts)
  command?
    | [a] => some (c a)
    | _ => none

/-- A form that keeps two parts. -/
def withTwo (parts : List Pattern) (c : String → String → Command) : Form where
  pattern := sequence (gap :: parts)
  command?
    | [a, b] => some (c a b)
    | _ => none

/-- A form that keeps three parts. -/
def withThree (parts : List Pattern) (c : String → String → String → Command) : Form where
  pattern := sequence (gap :: parts)
  command?
    | [a, b, d] => some (c a b d)
    | _ => none

/-! ## The forms -/

/-- What one agent says about a sentence. -/
def speechForm (verb : String) (c : String → Sentence → Command) : Form :=
  withTwo [name, space, text verb, optionalMark [':'], gap, sentence, sentenceEnd]
    fun speaker s => c speaker (sentenceOf s)

/-- What one agent says against another. -/
def challengeForm : Form :=
  withThree
    [name, space, text "challenges", space, name,
      maybe (sequence [text "'s", space, text "entitlement", space, text "to"]), space,
      sentence, sentenceEnd]
    fun speaker target s => .challenge speaker target (sentenceOf s)

/-- Taking back what was said against another. -/
def withdrawForm : Form :=
  withThree
    [name, space, anyOf ["abandons", "withdraws"], space,
      maybe (sequence [anyOf ["his", "her", "its", "their"], space]), text "challenge", space,
      maybe (sequence [text "to", space]), name, maybe (text "'s entitlement to"), space,
      sentence, sentenceEnd]
    fun speaker target s => .withdraw speaker target (sentenceOf s)

/-- Adding or removing an inference. -/
def inferenceForm (edit : Edit) (kind : InferenceKind) : Form :=
  withThree
    [name, space, text edit.verb, space, text kind.word, space, text "inference",
      optionalMark [':'], space, sentences, gap, text "|-", gap, group (few (.noneOf ['.'])),
      sentenceEnd]
    fun speaker premises conclusion =>
      .editInference speaker edit kind (sentencesOf premises) (Text.trim conclusion)

/-- Adding or removing an incompatibility. -/
def incompatibilityForm (edit : Edit) : Form :=
  withTwo
    [name, space, text edit.verb, space, text "incompatibility", optionalMark [':'], space,
      sentences, gap, sentenceEnd]
    fun speaker s => .editIncompatibility speaker edit (sentencesOf s)

/-- The forms, first tried first. -/
def forms : List Form :=
  [bare [anyOf ["quit", "exit"]] .quit,
    bare [text "help"] .help,
    bare [maybe (text "list"), gap, text "agents"] .listAgents,
    withOne [text "add", gap, text "agent", space, name, gap] .addAgent,
    withOne [text "remove", gap, text "agent", space, name, gap] .removeAgent,
    bare [text "new", gap, text "game"] .newGame,
    withTwo [text "score", gap, text "of", space, name, space, text "on", space, name, gap] .score,
    withTwo [name, text "'s", space, text "score", space, text "on", space, name, gap] .score,
    bare [text "score"] .scoreAll,
    withTwo
      [text "set", space, text "intelligence", space, text "of", space, name, space, text "to",
        space, group (Pattern.some .decimal), gap]
      .setIntelligence,
    speechForm "asserts" .assert,
    speechForm "disavows" .disavow,
    challengeForm,
    withdrawForm,
    inferenceForm .add .committive,
    inferenceForm .add .permissive,
    inferenceForm .remove .committive,
    inferenceForm .remove .permissive,
    incompatibilityForm .add,
    incompatibilityForm .remove,
    withOne [name, gap] .describe]

end Grammar

/-- What the line asks for, if it is a command. -/
def Command.parse? (line : String) : Option Command :=
  Grammar.forms.findSome? fun form => (form.pattern.match? line).bind form.command?

end Discourse
