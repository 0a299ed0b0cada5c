import Discourse.Interpreter

/-!
# The terminal

A game played at a prompt. It begins with a new game, and each line is answered, until an answer
is the goodbye. Where the lines come to an end the visitor is taken to quit.

* `Terminal.run`: what is printed, how the session ended, and the play that it leaves behind.
-/

namespace Discourse.Terminal

/-- What stands before each line. -/
def prompt : String := "GOGAR> "

/-- What comes after the last line. -/
inductive Ending where
  /-- The input ends. -/
  | endOfInput
  /-- The visitor breaks off. -/
  | interrupt
  deriving DecidableEq, Repr

/-- How a session ended. -/
inductive Outcome where
  | left
  | interrupted
  | failed (e : CommandFailure)
  deriving DecidableEq, Repr

/-- A session that is over. -/
structure Transcript where
  printed : Text
  outcome : Outcome
  play : Play

/-- The session with something printed before it. -/
def Transcript.after (t : Transcript) (printed : Text) : Transcript :=
  { t with printed := printed ++ t.printed }

/-- Answers the lines at the prompt, up to the first goodbye. -/
def play (it : Interpreter) (ending : Ending) (p : Play) : List String → Transcript
  | [] =>
    match ending with
    | .interrupt => ⟨prompt, .interrupted, p⟩
    | .endOfInput =>
      match it.execute p "quit" with
      | (.ok output, p) => ⟨prompt ++ output, .left, p⟩
      | (.error e, p) => ⟨prompt, .failed e, p⟩
  | line :: lines =>
    match it.execute p line with
    | (.error e, p) => ⟨prompt, .failed e, p⟩
    | (.ok output, p) =>
      if output = Reply.goodbyeText then ⟨prompt ++ output, .left, p⟩
      else (play it ending p lines).after (prompt ++ output)

/-- A session with the given lines. -/
def run (it : Interpreter) (ending : Ending) (p : Play) (lines : List String) : Transcript :=
  match it.execute p "new game" with
  | (.error e, p) => ⟨"", .failed e, p⟩
  | (.ok output, p) => (play it ending p lines).after output

end Discourse.Terminal
