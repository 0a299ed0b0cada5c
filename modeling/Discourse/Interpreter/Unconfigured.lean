import Discourse.Interpreter
import Discourse.Settings.Reading

/-!
# Playing without settings

A game can be played on when the settings cannot be read, as long as the column of the listings is
given: only newcomers need settings. A newcomer then fails for want of them, after its name has
been found to be free, and a new game fails once the old one has been put away.

* `Unconfigured.execute`: one line.
-/

namespace Discourse

/-- An interpreter without settings. -/
structure Unconfigured where
  /-- Why there are no settings. -/
  fault : SettingsFault
  /-- The column at which listings are wrapped. -/
  width : Int

namespace Unconfigured

/-- Why a line has no answer. -/
inductive Failure where
  | settings (e : SettingsFault)
  | command (e : CommandFailure)
  deriving DecidableEq, Repr

/-- Whether a command needs settings in this game: it does when somebody would join. -/
def needsSettings (g : Game) : Command → Bool
  | .addAgent name => (g.agentNamed? name).isNone
  | .newGame => true
  | _ => false

/-- The game once a command has failed for want of settings. -/
def abandoned (p : Play) : Command → Play
  | .newGame => p.withGame {}
  | _ => p

/-- Executes a line that needs no settings as an interpreter with any settings does. -/
def execute (it : Unconfigured) (p : Play) (line : String) : Except Failure Text × Play :=
  match Command.parse? line with
  | some c =>
    if needsSettings p.game c then (.error (.settings it.fault), abandoned p c)
    else
      let (result, p) := ({ width := it.width } : Interpreter).execute p line
      (result.mapError .command, p)
  | none =>
    let (result, p) := ({ width := it.width } : Interpreter).execute p line
    (result.mapError .command, p)

end Unconfigured

end Discourse
