import Discourse.Settings
import Discourse.Text.Numeral
import Discourse.Text.Quoted

/-!
# The command line

The options of the program: help, the web version with or without a port, and the version. A long
option may be cut short as long as it stays clear, and takes a value after `=` or as the next
argument; a short option takes the rest of its argument, or a short option without a value is
followed by further ones. Everything after `--` is no option, and as a value `--` counts as none.

* `CommandLine.parse`: what is asked for, or what is wrong.
* `CommandLine.help` and `CommandLine.errorText`: what is then printed.
-/

namespace Discourse.CommandLine

/-! ## Options -/

/-- The options. -/
inductive Flag where
  | help
  | web
  | version
  deriving DecidableEq, Repr

/-- How the options are written. -/
def spellings : List (List Char × Flag) :=
  [("-h".toList, .help), ("--help".toList, .help), ("-w".toList, .web), ("--web".toList, .web),
    ("-v".toList, .version), ("--version".toList, .version)]

/-- The option in a message. -/
def Flag.label : Flag → String
  | .help => "-h/--help"
  | .web => "-w/--web"
  | .version => "-v/--version"

/-- The option of a spelling. -/
def flag? (spelling : List Char) : Option Flag :=
  (spellings.find? (·.1 == spelling)).map Prod.snd

/-- What is asked for. -/
inductive Request where
  | console
  | web (port : Int)
  | help
  | version
  deriving DecidableEq, Repr

/-- What is wrong with the arguments. -/
inductive UsageError where
  | ambiguous (argument : String) (candidates : List String)
  | unwantedValue (f : Flag) (value : String)
  | notAnInteger (value : String)
  | unrecognized (arguments : List String)
  deriving DecidableEq, Repr

/-- The error in words. -/
def UsageError.message : UsageError → String
  | .ambiguous argument candidates =>
    "ambiguous option: " ++ argument ++ " could match " ++ ", ".intercalate candidates
  | .unwantedValue f value =>
    "argument " ++ f.label ++ ": ignored explicit argument " ++ Text.quoted value
  | .notAnInteger value =>
    "argument " ++ Flag.web.label ++ ": invalid int value: " ++ Text.quoted value
  | .unrecognized arguments => "unrecognized arguments: " ++ " ".intercalate arguments

/-! ## Telling options from other arguments -/

/-- What an argument is. -/
inductive Argument where
  | plain
  /-- What stands after it is no option. -/
  | separator
  /-- An option without anything attached to it. -/
  | bare (f : Flag)
  /-- A long option with what follows `=`. -/
  | valued (f : Flag) (value : List Char)
  /-- A short option with what follows it, or what follows `=` after it. -/
  | trailed (f : Flag) (tail : List Char)
  /-- It looks like an option, but there is no such option. -/
  | unknown
  deriving DecidableEq, Repr

/-- Whether the characters are decimal digits, one at least. -/
def areDigits (cs : List Char) : Bool := !cs.isEmpty && cs.all Text.isDecimal

/-- Whether what follows a dash makes it a negative number, whole or with a point. A line break
may end it. -/
def isNumber (cs : List Char) : Bool :=
  let cs := if cs.getLast? == some '\n' then cs.dropLast else cs
  areDigits cs ||
    match Text.splitFirst '.' cs with
    | some (whole, fraction) => whole.all Text.isDecimal && areDigits fraction
    | none => false

/-- What an argument is that begins with a dash and names no option. -/
def unknownArgument (cs : List Char) : Argument :=
  if isNumber (cs.drop 1) || cs.contains ' ' then .plain else .unknown

/-- What an argument with two dashes is that is no option in full: the one long option that it
begins. -/
def shortenedArgument (cs : List Char) : Except UsageError Argument :=
  let (start, value) :=
    match Text.splitFirst '=' cs with
    | some (start, value) => (start, some value)
    | none => (cs, none)
  match spellings.filter fun (spelling, _) => start.isPrefixOf spelling with
  | [] => .ok (unknownArgument cs)
  | [(_, f)] => .ok (match value with
    | some value => .valued f value
    | none => .bare f)
  | candidates =>
    .error (.ambiguous (String.ofList cs) (candidates.map fun c => String.ofList c.1))

/-- What an argument with one dash is that is no option in full. -/
def shortArgument (cs : List Char) : Argument :=
  match flag? (cs.take 2) with
  | some f => .trailed f (cs.drop 2)
  | none => unknownArgument cs

/-- What an argument is. -/
def classify (argument : String) : Except UsageError Argument :=
  let cs := argument.toList
  match flag? cs, cs with
  | some f, _ => .ok (.bare f)
  | none, '-' :: c :: _ =>
    match Text.splitFirst '=' cs with
    | some (start, value) =>
      match flag? start with
      | some f => .ok (if c == '-' then .valued f value else .trailed f value)
      | none => if c == '-' then shortenedArgument cs else .ok (shortArgument cs)
    | none => if c == '-' then shortenedArgument cs else .ok (shortArgument cs)
  | none, _ => .ok .plain

/-- What each argument is. -/
def classifyAll : List String → Except UsageError (List (String × Argument))
  | [] => .ok []
  | "--" :: arguments => .ok (("--", .separator) :: arguments.map fun a => (a, .plain))
  | a :: arguments =>
    match classify a with
    | .error e => .error e
    | .ok what => (classifyAll arguments).map ((a, what) :: ·)

/-! ## Carrying out options -/

/-- What one argument amounts to. -/
inductive Step where
  /-- An option, with the value that it is given. -/
  | option (f : Flag) (value : Option String)
  /-- Something that is no option. -/
  | leftover (argument : String)
  deriving DecidableEq, Repr

/-- An option without anything attached to it: the web version takes the next argument if that is
a plain one. -/
def bareSteps (next : Option String) : Flag → List Step
  | .web => [.option .web next]
  | f => [.option f none]

/-- The web version with a value. -/
def webStep (value : List Char) : Step :=
  .option .web (if value = "--".toList then none else some (String.ofList value))

/-- A long option with a value attached by `=`. -/
def valuedSteps (f : Flag) (value : List Char) : Except UsageError (List Step) :=
  match f with
  | .web => .ok [webStep value]
  | f => .error (.unwantedValue f (String.ofList value))

/-- Whether what follows a short option without a value is a row of short options, the last of
which may be the web version with a value; if not, what is wrong. -/
def checkTail (f : Flag) : List Char → Except UsageError Unit
  | [] => .error (.unwantedValue f "")
  | c :: cs =>
    match flag? ['-', c] with
    | none => .error (.unwantedValue f (String.ofList (c :: cs)))
    | some .web => .ok ()
    | some g => if cs.isEmpty then .ok () else checkTail g cs

/-- A short option and what follows it: the value of the web version. After another option there
are further ones, which make no difference once that one is carried out. -/
def trailedSteps (f : Flag) (tail : List Char) : Except UsageError (List Step) :=
  match f with
  | .web => .ok [webStep tail]
  | f => (checkTail f tail).map fun _ => [.option f none]

/-- What an argument amounts to, `next` being the argument after it if that is a plain one. -/
def stepsOf (next : Option String) (argument : String) :
    Argument → Except UsageError (List Step)
  | .bare f => .ok (bareSteps next f)
  | .valued f value => valuedSteps f value
  | .trailed f tail => trailedSteps f tail
  | _ => .ok [.leftover argument]

/-- What has been found so far. -/
structure Found where
  /-- The port, if the web version is asked for. -/
  port : Option Int := none
  /-- What is no option, in order. -/
  leftovers : List String := []
  deriving DecidableEq, Repr

/-- Carries out steps. Help and version end the matter, whatever comes after them. -/
def runSteps (defaultPort : Int) (found : Found) :
    List Step → Except UsageError (Sum Request Found)
  | [] => .ok (.inr found)
  | .option .help _ :: _ => .ok (.inl .help)
  | .option .version _ :: _ => .ok (.inl .version)
  | .option .web none :: steps => runSteps defaultPort { found with port := some defaultPort } steps
  | .option .web (some value) :: steps =>
    match Text.readInteger? value with
    | some n => runSteps defaultPort { found with port := some n } steps
    | none => .error (.notAnInteger value)
  | .leftover a :: steps =>
    runSteps defaultPort { found with leftovers := found.leftovers ++ [a] } steps

/-- Whether an argument uses the one after it. -/
def takesNext (what : Argument) (next : Option String) : Bool :=
  what == .bare .web && next.isSome

/-- What is asked for once all arguments are used. -/
def conclude (found : Found) : Except UsageError Request :=
  if found.leftovers.isEmpty then
    .ok (match found.port with
      | some port => .web port
      | none => .console)
  else .error (.unrecognized found.leftovers)

/-- Carries out the arguments in order; `skip` says that the first one has been used. -/
def runArguments (defaultPort : Int) (found : Found) (skip : Bool) :
    List (String × Argument) → Except UsageError Request
  | [] => conclude found
  | (argument, what) :: arguments =>
    if skip then runArguments defaultPort found false arguments
    else
      let next := match arguments with
        | (a, .plain) :: _ => some a
        | _ => none
      match stepsOf next argument what with
      | .error e => .error e
      | .ok steps =>
        match runSteps defaultPort found steps with
        | .error e => .error e
        | .ok (.inl request) => .ok request
        | .ok (.inr found) => runArguments defaultPort found (takesNext what next) arguments

/-- What the arguments ask for. -/
def parse (settings : Settings) (arguments : List String) : Except UsageError Request :=
  match classifyAll arguments with
  | .error e => .error e
  | .ok arguments => runArguments settings.webPort {} false arguments

/-! ## What is printed -/

/-- How the program is called. -/
def usage : String := "usage: gogar [-h] [-w [PORT]] [-v]\n"

/-- What is printed when the arguments are wrong. -/
def errorText (e : UsageError) : String := usage ++ "gogar: error: " ++ e.message ++ "\n"

/-- The version of the program. -/
def versionText : String := "gogar 1.0.0\n"

/-- The pieces of at most `width` characters, one at least. -/
def chunks (width : Nat) : Nat → List Char → List (List Char)
  | 0, cs => [cs]
  | fuel + 1, cs =>
    if cs.length ≤ width then [cs] else cs.take width :: chunks width fuel (cs.drop width)

/-- The width of the column in which options are explained. -/
def helpWidth : Nat := 54

/-- The lines that explain the web version. The port stands on the first line if there is room,
else on the next; one that is longer than a line is broken wherever the lines end. -/
def webHelp (port : Int) : List String :=
  let lead := "Run web version of GOGAR [on port PORT, default"
  let word := (toString port).toList ++ [']']
  let room := helpWidth - lead.length - 1
  if word.length ≤ room then [lead ++ " " ++ String.ofList word]
  else if word.length ≤ helpWidth then [lead, String.ofList word]
  else
    (lead ++ " " ++ String.ofList (word.take room)) ::
      (chunks helpWidth word.length (word.drop room)).map String.ofList

/-- The explanation of the options. -/
def help (settings : Settings) : String :=
  usage ++
    "\nGOGAR -- the game of giving and asking for reasons\n" ++
    "\noptions:\n" ++
    "  -h, --help            show this help message and exit\n" ++
    "  -w [PORT], --web [PORT]\n" ++
    String.join ((webHelp settings.webPort).map fun line =>
      "                        " ++ line ++ "\n") ++
    "  -v, --version         show program's version number and exit\n"

end Discourse.CommandLine
