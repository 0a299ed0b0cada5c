import Discourse.Command.Grammar
import Discourse.Command.Run

/-!
# The interpreter

Reads a line, carries it out and records it with its answer. A line that is no command is
answered and recorded too; only a line without an answer leaves no trace in the transcript.

* `Interpreter.execute`: one line.
* `Interpreter.executeAll`: several lines.
-/

namespace Discourse

/-- What an interpreter goes by. -/
structure Interpreter where
  /-- What newcomers and new games start with. -/
  settings : Settings := {}
  /-- The column at which listings are wrapped. -/
  width : Int := settings.wrapWidth
  deriving Inhabited

namespace Interpreter

/-- The interpreter with the given column; zero, or none, stands for the configured one. -/
def ofWidth (settings : Settings) (width : Option Int) : Interpreter where
  settings := settings
  width :=
    match width with
    | some w => if w = 0 then settings.wrapWidth else w
    | none => settings.wrapWidth

/-- What a line does to a play, before it is recorded. -/
def reply (it : Interpreter) (p : Play) (line : String) : Except CommandFailure Reply × Play :=
  match Command.parse? line with
  | some c => c.run it.settings p
  | none => (.ok .notRecognized, p)

/-- Adds a line and its answer to the transcript. -/
def recorded (line : String) (output : Text) (p : Play) : Play :=
  p.withGame (p.game.record line output)

/-- Executes a line: its answer, and the play with both recorded. -/
def execute (it : Interpreter) (p : Play) (line : String) : Except CommandFailure Text × Play :=
  match it.reply p line with
  | (.ok r, p) => (.ok (r.text it.width), recorded line (r.text it.width) p)
  | (.error e, p) => (.error e, p)

/-- Executes the lines one after another, whatever becomes of them. -/
def executeAll (it : Interpreter) (p : Play) :
    List String → List (Except CommandFailure Text) × Play
  | [] => ([], p)
  | line :: lines =>
    let (output, p) := it.execute p line
    let (outputs, p) := it.executeAll p lines
    (output :: outputs, p)

/-- The play after the lines. -/
def playAfter (it : Interpreter) (p : Play) (lines : List String) : Play :=
  lines.foldl (fun p line => (it.execute p line).2) p

theorem executeAll_snd (it : Interpreter) (p : Play) (lines : List String) :
    (it.executeAll p lines).2 = it.playAfter p lines := by
  induction lines generalizing p with
  | nil => rfl
  | cons line lines ih => exact ih _

end Interpreter

end Discourse
