import Discourse.Json.Parser
import Discourse.Settings
import Discourse.Settings.EnvFile
import Discourse.Text.Lowercase
import Discourse.Validation

/-!
# Reading settings

Settings are given by variables named after them, with `GOGAR_` in front, in whatever case. The
environment is asked first, then a file of variables. A list is given as a structured value, and
`null` there leaves the setting as it is. A file may not bind names that mean nothing; the
environment may.

* `Settings.read`: the settings, or why there are none.
* `SettingsFault.message`: the reason in words.
-/

namespace Discourse

/-- Where a variable comes from. -/
inductive SettingSource where
  | environment
  | file
  deriving DecidableEq, Repr

/-- The name of the source in a message. -/
def SettingSource.name : SettingSource → String
  | .environment => "EnvSettingsSource"
  | .file => "DotEnvSettingsSource"

/-- Why there are no settings. -/
inductive SettingsFault where
  /-- A list is not given as a structured value. -/
  | unreadable (field : String) (source : SettingSource)
  /-- In a structured value, a list or an object stands inside too many others. -/
  | tooDeep (container : Json.Container)
  | invalid (ps : List Problem)
  deriving DecidableEq, Repr

/-- The reason in words. -/
def SettingsFault.message : SettingsFault → String
  | .unreadable field source =>
    "error parsing value for field \"" ++ field ++ "\" from source \"" ++ source.name ++ "\""
  | .tooDeep container =>
    "maximum recursion depth exceeded while decoding a JSON " ++
      (match container with
        | .list => "array"
        | .object => "object") ++ " from a unicode string"
  | .invalid ps => Problem.texts ps

namespace Settings

/-! ## Variables -/

/-- The names of the settings in order, and which of them are lists. -/
def fields : List (String × Bool) :=
  [("default_intelligence", false), ("default_committive_inferences", true),
    ("default_permissive_inferences", true), ("default_incompatibilities", true),
    ("seed_agents", true), ("wrap_width", false), ("database_url", false), ("web_host", false),
    ("web_port", false), ("log_level", false), ("debug", false)]

/-- What stands in front of the name of a setting in the name of its variable, in lower case. -/
def variablePrefix : String := "gogar_"

/-- Variables by name in lower case; of two names that differ in case only the later one counts,
at the place of the earlier one. -/
def lowerNames (vars : List EnvFile.Binding) : List EnvFile.Binding :=
  vars.foldl
    (fun earlier b => EnvFile.setVariable { b with name := Text.lowerString b.name } earlier) []

/-- The value of the variable of the name. -/
def valueOf? (vars : List EnvFile.Binding) (name : String) : Option String :=
  (vars.find? (·.name == name)).bind EnvFile.Binding.value

/-- How many lists and objects may stand inside one another in a setting. -/
def mostNested : Nat := 985

/-- The structured value that a setting is given as. -/
def readStructured (field : String) (source : SettingSource) (s : String) :
    Except SettingsFault Json :=
  match Json.firstTooDeep? mostNested s, Json.parse? s with
  | some container, _ => .error (.tooDeep container)
  | none, none => .error (.unreadable field source)
  | none, some v => .ok v

/-- The values that a source gives to the settings, as structured values. -/
def gather (source : SettingSource) (vars : List EnvFile.Binding) :
    List (String × Bool) → Except SettingsFault (List (Text × Json))
  | [] => .ok []
  | (field, isList) :: rest =>
    match valueOf? vars (variablePrefix ++ field) with
    | none => gather source vars rest
    | some s =>
      if isList then
        match readStructured field source s with
        | .error e => .error e
        | .ok .null => gather source vars rest
        | .ok v => (gather source vars rest).map ((↑field, v) :: ·)
      else (gather source vars rest).map ((↑field, .text s) :: ·)

/-- Whether a variable of a file has a value and means nothing. The name of a setting without the
prefix is passed over. -/
def isStray (b : EnvFile.Binding) : Bool :=
  (b.value.getD "") != "" && !fields.any fun (field, _) =>
    b.name == field || b.name == variablePrefix ++ field

/-- The variables of a file that mean nothing, as problems. -/
def strayProblems (vars : List EnvFile.Binding) : List Problem :=
  (vars.filter isStray).map fun b => ⟨[b.name], .extra⟩

/-! ## Values -/

/-- An inference as it is configured. -/
def readRuleSpec (v : Json) : Reading RuleSpec :=
  (readPair (readList readText) readText v).map fun (premises, conclusion) =>
    ⟨premises, conclusion⟩

/-- How much is logged. -/
def readLogLevel (v : Json) : Reading LogLevel :=
  match v.text?.bind LogLevel.ofName? with
  | some level => .ok level
  | none => .fail .notAllowed

/-- A truth value in a variable. -/
def readSwitch : Json → Reading Bool
  | .text s => readTruth s
  | _ => .fail .unreadableTruth

/-- The settings of the given values; what is left out is as in `d`. -/
def ofValues (d : Settings) (vs : List (Text × Json)) : Reading Settings :=
  (Reading.both (readFieldD "default_intelligence" d.defaultIntelligence (readNatFrom 0) vs)
    (.both (readFieldD "default_committive_inferences" d.defaultCommittive
        (readList readRuleSpec) vs)
      (.both (readFieldD "default_permissive_inferences" d.defaultPermissive
          (readList readRuleSpec) vs)
        (.both (readFieldD "default_incompatibilities" d.defaultIncompatibilities
            (readList (readList readText)) vs)
          (.both (readFieldD "seed_agents" d.seedAgents (readList readText) vs)
            (.both (readFieldD "wrap_width" d.wrapWidth (readNatFrom 20) vs)
              (.both (readFieldD "database_url" d.databaseUrl readText vs)
                (.both (readFieldD "web_host" d.webHost readText vs)
                  (.both (readFieldD "web_port" d.webPort readInteger vs)
                    (.both (readFieldD "log_level" d.logLevel readLogLevel vs)
                      (readFieldD "debug" d.debug readSwitch vs))))))))))).map
    fun (defaultIntelligence, defaultCommittive, defaultPermissive, defaultIncompatibilities,
        seedAgents, wrapWidth, databaseUrl, webHost, webPort, logLevel, debug) =>
      { defaultIntelligence, defaultCommittive, defaultPermissive, defaultIncompatibilities,
        seedAgents, wrapWidth, databaseUrl, webHost, webPort, logLevel, debug }

/-- The settings that the environment and a file of variables give. -/
def read (environment : List (String × String)) (file : Option String) :
    Except SettingsFault Settings :=
  let fromEnvironment := lowerNames (environment.map fun (name, value) => ⟨name, some value⟩)
  let fromFile := lowerNames ((file.map (EnvFile.assignments environment)).getD [])
  match gather .environment fromEnvironment fields with
  | .error e => .error e
  | .ok given =>
    match gather .file fromFile fields with
    | .error e => .error e
    | .ok more =>
      match ofValues {} (given ++ more), strayProblems fromFile with
      | .ok settings, [] => .ok settings
      | .ok _, strays => .error (.invalid strays)
      | .error (.problems ps), strays => .error (.invalid (ps ++ strays))
      | .error .memberless, strays => .error (.invalid strays)

end Settings

end Discourse
