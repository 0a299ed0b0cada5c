import Discourse.Game
import Discourse.Json.Printer
import Discourse.Snapshot.Reading

/-!
# Writing snapshots

A snapshot as a structured value, and as text. A snapshot in which some text has no bytes is not
written.

* `Snapshot.toJson` and `Snapshot.print`: writing.
* `Snapshot.parse?`: reading the text.
* `Game.reload`: a game that is written and read back.
-/

namespace Discourse

/-- A list of texts. -/
def Json.texts (items : List Text) : Json := .list (items.map .text)

/-- An inference as an object. -/
def Inference.toJson (i : Inference) : Json :=
  .object [("premises", .texts i.premises.toList), ("conclusion", .text i.conclusion)]

/-- A challenge as a pair. -/
def Challenge.toJson (c : Challenge) : Json := .list [.text c.target.text, .text c.sentence]

/-- The state of one agent. -/
def AgentRecord.toJson (r : AgentRecord) : Json :=
  .object
    [("agent_id", .text r.id.text),
      ("name", .text r.name),
      ("intelligence", .integer r.intelligence),
      ("commitments_avowed", .texts r.avowed),
      ("incompatibilities", .list (r.incompatibilities.map .texts)),
      ("committive_inferences", .list (r.committive.map Inference.toJson)),
      ("permissive_inferences", .list (r.permissive.map Inference.toJson)),
      ("challenges_issued", .list (r.challenges.map Challenge.toJson))]

/-- One command and the answer to it. -/
def Exchange.toJson (e : Exchange) : Json :=
  .object [("input", .text e.input), ("output", .text e.output)]

namespace Snapshot

/-- The state of a game. -/
def toJson (s : Snapshot) : Json :=
  .object
    [("agents", .list (s.agents.map AgentRecord.toJson)),
      ("transcript", .list (s.transcript.map Exchange.toJson))]

/-- The text of a snapshot, or the first halves in it. -/
def print (s : Snapshot) : Except Text.LoneHalves String :=
  match s.toJson.loneHalves? with
  | some halves => .error halves
  | none => .ok s.toJson.print

/-- The snapshot that a text holds; none when the text is no structured value, or has problems. -/
def parse? (text : String) : Option Snapshot :=
  match Json.parse? text with
  | some v => (readSnapshot .text v).toOption
  | none => none

end Snapshot

/-- The game that is read back when a game has been written as text. -/
def Game.reload (g : Game) : Except Text.LoneHalves (Option Game) :=
  match g.snapshot.print with
  | .error halves => .error halves
  | .ok text => .ok ((Snapshot.parse? text).map .ofSnapshot)

end Discourse
