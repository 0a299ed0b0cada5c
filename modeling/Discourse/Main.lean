import Discourse.CommandLine
import Discourse.Settings.Reading
import Discourse.Terminal
import Discourse.Text.Half

/-!
# The program

The command line program: it reads its settings, and plays a game at the prompt. Lines are read
and answered one at a time.
-/

namespace Discourse.Main

/-- The variables of the environment that are named for settings. -/
def environment : IO (List (String × String)) := do
  let mut found := []
  for (field, _) in Settings.fields do
    let name := (Settings.variablePrefix ++ field).toUpper
    if let some value ← IO.getEnv name then
      found := found ++ [(name, value)]
  return found

/-- The content of the file of variables in the working directory, if there is one. -/
def variableFile : IO (Option String) := do
  try
    return some (← IO.FS.readFile ".env")
  catch _ =>
    return none

/-- Prints a text on the stream, and then goes on. A text without bytes ends the program. -/
def printing (stream : IO.FS.Stream) (text : Text) (next : IO UInt32) : IO UInt32 := do
  match text.loneHalves? with
  | none =>
    stream.putStr (String.ofList text.chars)
    stream.flush
    next
  | some halves =>
    IO.eprintln halves.message
    return 1

/-- Ends the program with a failure in words. -/
def failing (message : Text) : IO UInt32 := do
  printing (← IO.getStderr) (message ++ "\n") (return 1)

/-- Answers lines at the prompt until an answer is the goodbye. -/
partial def converse (it : Interpreter) (p : Play) : IO UInt32 := do
  let out ← IO.getStdout
  out.putStr Terminal.prompt
  out.flush
  let line ← (← IO.getStdin).getLine
  let text := if line.isEmpty then "quit" else String.ofList (line.toList.filter (· != '\n'))
  match it.execute p text with
  | (.error e, _) => failing e.message
  | (.ok output, p) =>
    printing out output (if output = Reply.goodbyeText then return 0 else converse it p)

/-- Plays a game at the prompt. -/
def console (settings : Settings) : IO UInt32 := do
  let it : Interpreter := { settings }
  match it.execute {} "new game" with
  | (.error e, _) => failing e.message
  | (.ok output, p) => printing (← IO.getStdout) output (converse it p)

/-- Does what the command line asks for. -/
def run (settings : Settings) (arguments : List String) : IO UInt32 := do
  match CommandLine.parse settings arguments with
  | .error e =>
    IO.eprint (CommandLine.errorText e)
    return 2
  | .ok .help =>
    IO.print (CommandLine.help settings)
    return 0
  | .ok .version =>
    IO.print CommandLine.versionText
    return 0
  | .ok (.web port) =>
    failing ("no web server is linked in; wanted on " ++ settings.webHost ++ ":" ++ toString port)
  | .ok .console => console settings

end Discourse.Main

/-- The entry point. -/
def main (arguments : List String) : IO UInt32 := do
  match Discourse.Settings.read (← Discourse.Main.environment) (← Discourse.Main.variableFile) with
  | .error e =>
    IO.eprintln e.message
    return 1
  | .ok settings => Discourse.Main.run settings arguments
