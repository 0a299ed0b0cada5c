import Discourse.Command
import Discourse.Hall

/-!
# Operations on the hall

Everything that can be done to a game and to those who ever came. An agent is spoken to by its
number, whether it is seated or not; names only count for those who are seated. Where nobody has
a number, nothing happens.

* `Hall.Operation`: one constructor for each operation.
* `Hall.perform`: what an operation does, and the refusal if there is one.
* `Hall.after`: the hall after several operations, refused ones among them.
-/

namespace Discourse.Hall

/-- An operation. -/
inductive Operation where
  /-- A newcomer joins the game. -/
  | join (name : Text) (seed : Seed)
  /-- An agent comes into being outside the game. -/
  | enter (name : Text) (seed : Seed)
  | leave (name : Text)
  | newGame
  | reset
  /-- The game is replaced by the one that its own snapshot gives. -/
  | rebuild
  | record (input output : Text)
  | setIntelligence (agent : Nat) (value : Int)
  | assert (agent : Nat) (sentence : Sentence)
  | disavow (agent : Nat) (sentence : Sentence)
  | challenge (agent target : Nat) (sentence : Sentence)
  | withdraw (agent target : Nat) (sentence : Sentence)
  /-- An agent withdraws its challenges to a sentence whose targets are not seated. -/
  | withdrawDangling (agent : Nat) (sentence : Sentence)
  | editInference (agent : Nat) (edit : Edit) (kind : InferenceKind) (premises : List Sentence)
      (conclusion : Sentence)
  | editIncompatibility (agent : Nat) (edit : Edit) (sentences : List Sentence)

/-- What an operation does whose result is given by a number. -/
def unnumbered (r : Except GameError Nat × Hall) : Except GameError Unit × Hall :=
  (r.1.map fun _ => (), r.2)

/-- An agent sets its reasoning depth. -/
def setIntelligence (h : Hall) (agent : Nat) (value : Int) : Except GameError Unit × Hall :=
  match h.person? agent with
  | none => (.ok (), h)
  | some a =>
    match a.setIntelligence value with
    | .ok a => (.ok (), h.change agent fun _ => a)
    | .error e => (.error e, h)

/-- An agent challenges another one, perhaps itself. -/
def challenge (h : Hall) (agent target : Nat) (s : Sentence) : Hall :=
  match h.person? agent, h.person? target with
  | some a, some t =>
    match a.challenge t s with
    | some challenger => h.change agent fun _ => challenger
    | none => h
  | _, _ => h

/-- An agent withdraws its challenge to another one. -/
def withdraw (h : Hall) (agent target : Nat) (s : Sentence) : Hall :=
  match h.person? target with
  | some t => h.change agent (·.withdraw t s)
  | none => h

/-- The refusal of an operation, if there is one, and the hall after it. -/
def perform (defaults : Settings) (h : Hall) : Operation → Except GameError Unit × Hall
  | .join name seed => unnumbered (h.join defaults name seed)
  | .enter name seed => unnumbered (h.enter defaults name seed)
  | .leave name =>
    match h.leave name with
    | .ok (_, h) => (.ok (), h)
    | .error e => (.error e, h)
  | .newGame => h.newGame defaults
  | .reset => (.ok (), h.reset)
  | .rebuild => (.ok (), h.seat (.ofSnapshot h.game.snapshot) h.ids)
  | .record input output => (.ok (), h.record input output)
  | .setIntelligence agent value => h.setIntelligence agent value
  | .assert agent s => (.ok (), h.change agent (·.assert s))
  | .disavow agent s => (.ok (), h.change agent (·.disavow s))
  | .challenge agent target s => (.ok (), h.challenge agent target s)
  | .withdraw agent target s => (.ok (), h.withdraw agent target s)
  | .withdrawDangling agent s =>
    (.ok (), h.change agent (·.withdrawDangling h.game.present s))
  | .editInference agent edit kind premises conclusion =>
    (.ok (),
      h.change agent (·.changeInferences kind (edit.apply (.ofPremises premises conclusion))))
  | .editIncompatibility agent edit sentences =>
    (.ok (), h.change agent (·.changeIncompatibilities (edit.apply (.ofList sentences))))

/-- The hall after the operations. -/
def after (defaults : Settings) (h : Hall) (operations : List Operation) : Hall :=
  operations.foldl (fun h operation => (h.perform defaults operation).2) h

end Discourse.Hall
