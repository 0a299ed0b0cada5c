import Discourse.Text

/-!
# Settings

What can be configured: the rules and the reasoning depth that a newcomer starts with, who is in
a new game, the width of listings, and where the web front end listens and keeps its sessions.

* `Settings`: a value for each, with the defaults.
* `RuleSpec`: an inference as it is configured, premises listed as they were given.
-/

namespace Discourse

/-- An inference as it is configured. -/
structure RuleSpec where
  premises : List Text
  conclusion : Text
  deriving DecidableEq, Repr, Inhabited

/-- How much is logged. -/
inductive LogLevel where
  | debug
  | info
  | warning
  | error
  | critical
  deriving DecidableEq, Repr

namespace LogLevel

/-- The name of the level in a setting. -/
def name : LogLevel → String
  | .debug => "DEBUG"
  | .info => "INFO"
  | .warning => "WARNING"
  | .error => "ERROR"
  | .critical => "CRITICAL"

/-- The name of the level as a web server takes it. -/
def lowerName : LogLevel → String
  | .debug => "debug"
  | .info => "info"
  | .warning => "warning"
  | .error => "error"
  | .critical => "critical"

/-- All levels. -/
def all : List LogLevel := [.debug, .info, .warning, .error, .critical]

/-- The level with the given name. -/
def ofName? (t : Text) : Option LogLevel := all.find? fun level => ↑level.name == t

theorem ofName?_name (level : LogLevel) : ofName? level.name = some level := by
  cases level <;> decide

end LogLevel

/-- The configuration of the program. -/
structure Settings where
  /-- Reasoning depth of a newcomer. -/
  defaultIntelligence : Nat := 100
  /-- Committive inferences of a newcomer. -/
  defaultCommittive : List RuleSpec :=
    [⟨["A is red"], "A is colored"⟩, ⟨["A is blue"], "A is colored"⟩,
      ⟨["A is green"], "A is colored"⟩]
  /-- Permissive inferences of a newcomer. -/
  defaultPermissive : List RuleSpec :=
    [⟨["A is red", "A is fragrant"], "A is edible"⟩,
      ⟨["A is blue", "A is small"], "A is poisonous"⟩]
  /-- Incompatibilities of a newcomer. -/
  defaultIncompatibilities : List (List Text) :=
    [["A is red", "A is blue"], ["A is red", "A is green"], ["A is blue", "A is green"],
      ["A is edible", "A is poisonous"]]
  /-- Who is in a new game. -/
  seedAgents : List Text := ["Ann", "Bob"]
  /-- Column at which listings are wrapped, at least 20. -/
  wrapWidth : Nat := 78
  databaseUrl : Text := "sqlite+aiosqlite:///./data/gogar.db"
  webHost : Text := "127.0.0.1"
  webPort : Int := 9094
  logLevel : LogLevel := .info
  debug : Bool := false
  deriving DecidableEq, Repr, Inhabited

end Discourse
