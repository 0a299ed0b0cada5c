import Discourse.Command
import Discourse.Game
import Discourse.Reply
import Discourse.Text.Numeral

/-!
# Carrying out a command

What a command does to a game, and what is answered. Whoever is named and absent, and whatever
cannot be done, is answered in words. Two things have no answer: a number with too many digits,
and a new game whose configured agents share a name.

* `Play`: a game, and the identifiers that are still to be handed out.
* `Command.run`: the effect of a command and its answer.
-/

namespace Discourse

/-- A game, and the identifiers for its newcomers. -/
structure Play where
  game : Game := {}
  ids : IdSupply := {}

instance : Inhabited Play := ⟨{}⟩

/-- Why a command has no answer. -/
inductive CommandFailure where
  /-- The game refuses one of the configured agents. -/
  | refused (e : GameError)
  /-- The number is too long to be read. -/
  | numeral (e : Text.NumeralTooLong)
  deriving DecidableEq, Repr

/-- The failure in words. -/
def CommandFailure.message : CommandFailure → Text
  | .refused e => e.message
  | .numeral e =>
    "Exceeds the limit (4300 digits) for integer string conversion: value has " ++
      toString e.digits ++ " digits; use sys.set_int_max_str_digits() to increase the limit"

namespace Play

/-- The play with another game. -/
def withGame (p : Play) (g : Game) : Play := { p with game := g }

/-- Answers with all scores of the game as it now is. -/
def answerScores (p : Play) : Except CommandFailure Reply × Play :=
  (.ok (.scores (scoreAll p.game.agents)), p)

/-- Changes the agent that is named and answers with all scores; nothing happens when there is no
such agent. -/
def change (p : Play) (name : String) (f : Agent → Agent) : Except CommandFailure Reply × Play :=
  match p.game.agentNamed? name with
  | none => (.ok (.agentNotFound name), p)
  | some _ => (p.withGame (p.game.modifyNamed name f)).answerScores

end Play

namespace Command

/-- What happens after a newcomer is announced. -/
def runAddAgent (defaults : Settings) (p : Play) (name : String) :
    Except CommandFailure Reply × Play :=
  match p.game.addAgent defaults name {} p.ids with
  | (.ok _, game, ids) => (.ok (.added name), ⟨game, ids⟩)
  | (.error (.duplicateName _), game, ids) => (.ok (.nameTaken name), ⟨game, ids⟩)
  | (.error e, game, ids) => (.error (.refused e), ⟨game, ids⟩)

/-- What happens when an agent is sent away. -/
def runRemoveAgent (p : Play) (name : String) : Except CommandFailure Reply × Play :=
  match p.game.removeAgent name with
  | .ok (_, game) => (.ok (.removed name), p.withGame game)
  | .error _ => (.ok (.nobodyNamed name), p)

/-- What happens when a new game is asked for. -/
def runNewGame (defaults : Settings) (p : Play) : Except CommandFailure Reply × Play :=
  match Game.newGame defaults p.ids with
  | (.ok _, game, ids) => (.ok .welcome, ⟨game, ids⟩)
  | (.error e, game, ids) => (.error (.refused e), ⟨game, ids⟩)

/-- What is answered when one agent's score on another is asked for. -/
def scoreReply (g : Game) (keeper other : String) : Reply :=
  match g.agentNamed? keeper with
  | none => .agentNotFound keeper
  | some k =>
    match g.agentNamed? other with
    | none => .agentNotFound other
    | some o => .score (Discourse.score g.agents k o)

/-- What happens when an agent's reasoning depth is set. -/
def runSetIntelligence (p : Play) (name digits : String) : Except CommandFailure Reply × Play :=
  match p.game.agentNamed? name with
  | none => (.ok (.agentNotFound name), p)
  | some _ =>
    match Text.readDigits digits.toList with
    | .error e => (.error (.numeral e), p)
    | .ok n => p.change name fun a => { a with intelligence := n }

/-- What happens when a sentence is taken back. -/
def runDisavow (p : Play) (speaker : String) (s : Sentence) :
    Except CommandFailure Reply × Play :=
  match p.game.agentNamed? speaker with
  | none => (.ok (.agentNotFound speaker), p)
  | some a =>
    if a.avowed.contains s then p.change speaker (·.disavow s)
    else (.ok (.notAsserted speaker s), p)

/-- What happens when an entitlement is challenged. -/
def runChallenge (p : Play) (speaker target : String) (s : Sentence) :
    Except CommandFailure Reply × Play :=
  match p.game.agentNamed? speaker with
  | none => (.ok (.agentNotFound speaker), p)
  | some a =>
    match p.game.agentNamed? target with
    | none => (.ok (.agentNotFound target), p)
    | some t =>
      match a.challenge t s with
      | none => (.ok (.neverAsserted t.name s), p)
      | some challenger => p.change speaker fun _ => challenger

/-- What happens when a challenge is withdrawn. The target may have left since the challenge was
issued; then every challenge to the sentence whose target has left is withdrawn. -/
def runWithdraw (p : Play) (speaker target : String) (s : Sentence) :
    Except CommandFailure Reply × Play :=
  match p.game.agentNamed? speaker with
  | none => (.ok (.agentNotFound speaker), p)
  | some a =>
    match p.game.agentNamed? target with
    | some t => p.change speaker (·.withdraw t s)
    | none =>
      if a.danglingCount p.game.present s = 0 then (.ok (.agentNotFound target), p)
      else p.change speaker (·.withdrawDangling p.game.present s)

/-- The descriptions of all agents, each looked up by its name. -/
def descriptionsOf (g : Game) : List Description :=
  g.agents.map fun a => g.descriptionOf ((g.agentNamed? a.name).getD a)

/-- What is answered when an agent is called by its name alone. -/
def describeReply (g : Game) (name : String) : Reply :=
  match g.agentNamed? name with
  | none => .notRecognized
  | some a => .portrait (g.descriptionOf a) (Discourse.score g.agents a a)

/-- Carries out the command. -/
def run (defaults : Settings) (p : Play) : Command → Except CommandFailure Reply × Play
  | quit => (.ok .goodbye, p)
  | help => (.ok .help, p)
  | listAgents => (.ok (.descriptions (descriptionsOf p.game)), p)
  | addAgent name => runAddAgent defaults p name
  | removeAgent name => runRemoveAgent p name
  | newGame => runNewGame defaults p
  | score keeper other => (.ok (scoreReply p.game keeper other), p)
  | scoreAll => p.answerScores
  | setIntelligence name digits => runSetIntelligence p name digits
  | assert speaker s => p.change speaker (·.assert s)
  | disavow speaker s => runDisavow p speaker s
  | challenge speaker target s => runChallenge p speaker target s
  | withdraw speaker target s => runWithdraw p speaker target s
  | editInference speaker edit kind premises conclusion =>
    p.change speaker (·.changeInferences kind (edit.apply (.ofPremises premises conclusion)))
  | editIncompatibility speaker edit sentences =>
    p.change speaker (·.changeIncompatibilities (edit.apply (.ofList sentences)))
  | describe name => (.ok (describeReply p.game name), p)

end Command

end Discourse
