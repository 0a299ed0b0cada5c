import Discourse.Proofs.Game.Names
import Discourse.Proofs.Game.Newcomers
import Discourse.Proofs.Interpreter.Line

/-!
# What a line touches

A line whose answer is a refusal leaves everybody as it was. Any other line touches only what its
command names: a newcomer comes last, whoever is sent away is gone, and where a command is about one
agent this agent keeps its place, its name and its identifier, and changes in one part at most.

* `Command.harmless_run`: a refused command does nothing.
* `Command.Changes`, `Command.Touches`: what a command makes of those present.
* `Command.touches_run`: any command that is not refused.
* `Interpreter.execute_touches`: a line.
-/

namespace Discourse

variable {settings : Settings} {p : Play} {name : String}

/-! ## Refused commands -/

/-- Nothing has happened if the answer is a refusal. -/
def Play.HarmlessRefusal (p : Play) (result : Except CommandFailure Reply × Play) : Prop :=
  ∀ r, result.1 = .ok r → r.isRefusal = true → result.2 = p

theorem Play.harmless_self (p : Play) (answer : Except CommandFailure Reply) :
    p.HarmlessRefusal (answer, p) := fun _ _ _ => rfl

theorem Play.harmless_ok (p : Play) {q : Play} {r : Reply} (hr : r.isRefusal = false) :
    p.HarmlessRefusal (.ok r, q) := by
  rintro _ ⟨⟩ h
  rw [hr] at h
  cases h

theorem Play.harmless_change (p : Play) (name : String) (f : Agent → Agent) :
    p.HarmlessRefusal (p.change name f) := by
  unfold change
  split
  · exact p.harmless_self _
  · exact p.harmless_ok rfl

namespace Command

open Play

theorem harmless_runAddAgent (settings : Settings) (p : Play) (name : String) :
    p.HarmlessRefusal (runAddAgent settings p name) := by
  unfold runAddAgent
  rw [Game.addAgent_newcomer]
  cases (p.game.agentNamed? name).isSome with
  | true => exact p.harmless_self _
  | false => exact p.harmless_ok rfl

theorem harmless_runRemoveAgent (p : Play) (name : String) :
    p.HarmlessRefusal (runRemoveAgent p name) := by
  unfold runRemoveAgent
  split
  · exact p.harmless_ok rfl
  · exact p.harmless_self _

theorem harmless_runNewGame (settings : Settings) (p : Play) :
    p.HarmlessRefusal (runNewGame settings p) := by
  unfold runNewGame
  split
  · exact p.harmless_ok rfl
  · rintro r ⟨⟩

theorem harmless_runSetIntelligence (p : Play) (name digits : String) :
    p.HarmlessRefusal (runSetIntelligence p name digits) := by
  unfold runSetIntelligence
  split
  · exact p.harmless_self _
  · split
    · exact p.harmless_self _
    · exact p.harmless_change name _

theorem harmless_runDisavow (p : Play) (speaker : String) (s : Sentence) :
    p.HarmlessRefusal (runDisavow p speaker s) := by
  unfold runDisavow
  split
  · exact p.harmless_self _
  · split
    · exact p.harmless_change speaker _
    · exact p.harmless_self _

theorem harmless_runChallenge (p : Play) (speaker target : String) (s : Sentence) :
    p.HarmlessRefusal (runChallenge p speaker target s) := by
  unfold runChallenge
  split
  · exact p.harmless_self _
  · split
    · exact p.harmless_self _
    · split
      · exact p.harmless_self _
      · exact p.harmless_change speaker _

theorem harmless_runWithdraw (p : Play) (speaker target : String) (s : Sentence) :
    p.HarmlessRefusal (runWithdraw p speaker target s) := by
  unfold runWithdraw
  split
  · exact p.harmless_self _
  · split
    · exact p.harmless_change speaker _
    · split
      · exact p.harmless_self _
      · exact p.harmless_change speaker _

/-- A refused command does nothing, not even draw an identifier. -/
theorem harmless_run (settings : Settings) (p : Play) (c : Command) :
    p.HarmlessRefusal (c.run settings p) := by
  cases c with
  | addAgent name => exact harmless_runAddAgent settings p name
  | removeAgent name => exact harmless_runRemoveAgent p name
  | newGame => exact harmless_runNewGame settings p
  | setIntelligence name digits => exact harmless_runSetIntelligence p name digits
  | assert speaker s => exact p.harmless_change speaker _
  | disavow speaker s => exact harmless_runDisavow p speaker s
  | challenge speaker target s => exact harmless_runChallenge p speaker target s
  | withdraw speaker target s => exact harmless_runWithdraw p speaker target s
  | editInference speaker => exact p.harmless_change speaker _
  | editIncompatibility speaker => exact p.harmless_change speaker _
  | _ => exact p.harmless_self _

/-! ## Commands about one agent -/

/-- Only the one agent of the name is touched: it keeps its place, its identifier and its name, and
changes as the command may change it. -/
def Changes (c : Command) (name : Text) (before after : List Agent) : Prop :=
  ∃ earlier a later b, before = earlier ++ a :: later ∧ after = earlier ++ b :: later ∧
    Text.lower a.name = Text.lower name ∧
    (∀ other ∈ earlier ++ later, Text.lower other.name ≠ Text.lower name) ∧
    b.id = a.id ∧ b.name = a.name ∧ c.Affects a b

theorem Affects.id_and_name {c : Command} {a b : Agent} (h : c.Affects a b) :
    b.id = a.id ∧ b.name = a.name := by
  cases c with
  | setIntelligence | assert | disavow | challenge | withdraw | editInference
  | editIncompatibility =>
    obtain ⟨_, rfl⟩ := h
    exact ⟨rfl, rfl⟩
  | _ =>
    cases h
    exact ⟨rfl, rfl⟩

/-- Where there is no such agent the command is refused. -/
theorem run_of_agentNamed?_eq_none {c : Command} (howner : c.owner? = some name)
    (hnone : p.game.agentNamed? name = none) :
    c.run settings p = (.ok (.agentNotFound name), p) := by
  cases c with
  | setIntelligence | assert | disavow | challenge | withdraw | editInference
  | editIncompatibility =>
    cases howner
    simp only [run, runSetIntelligence, runDisavow, runChallenge, runWithdraw, change, hnone]
  | _ => cases howner

theorem changes_of_leads {c : Command} {q : Play} {a : Agent} (hnames : p.game.NamesDiffer)
    (hfound : p.game.agentNamed? name = some a) (hq : c.Leads name p q) :
    c.Changes name p.game.agents q.game.agents := by
  obtain ⟨f, hf, rfl⟩ := hq
  obtain ⟨earlier, later, hagents, hafter⟩ := Game.exists_modifyNamed_eq hfound f
  have hlower : Text.lower a.name = Text.lower name := Game.hasName_iff.mp (List.find?_some hfound)
  refine ⟨earlier, a, later, f a, hagents, hafter, hlower, ?_, (hf a).id_and_name.1,
    (hf a).id_and_name.2, hf a⟩
  rw [← hlower]
  exact hnames.ne_of_mem hagents

/-! ## All commands -/

/-- What a command that is not refused makes of those present. Nothing is said of a new game. -/
def Touches (c : Command) (before after : List Agent) : Prop :=
  match c with
  | addAgent name => ∃ a : Agent, a.name = name ∧ after = before ++ [a]
  | removeAgent name => ∃ earlier a later, before = earlier ++ a :: later ∧
      after = earlier ++ later ∧ Text.lower a.name = Text.lower name
  | newGame => True
  | quit | help | listAgents | score _ _ | scoreAll | describe _ => after = before
  | setIntelligence name _ => c.Changes name before after
  | assert speaker _ | disavow speaker _ | challenge speaker _ _ | withdraw speaker _ _
  | editInference speaker _ _ _ _ | editIncompatibility speaker _ _ =>
    c.Changes speaker before after

theorem touches_runAddAgent {r : Reply} (h : (runAddAgent settings p name).1 = .ok r)
    (hr : r.isRefusal = false) :
    (addAgent name).Touches p.game.agents (runAddAgent settings p name).2.game.agents := by
  rw [runAddAgent_play]
  unfold runAddAgent at h
  rw [Game.addAgent_newcomer] at h ⊢
  cases hnamed : (p.game.agentNamed? name).isSome with
  | true =>
    rw [hnamed] at h
    cases h
    cases hr
  | false => exact ⟨_, rfl, rfl⟩

theorem touches_runRemoveAgent {r : Reply} (h : (runRemoveAgent p name).1 = .ok r)
    (hr : r.isRefusal = false) :
    (removeAgent name).Touches p.game.agents (runRemoveAgent p name).2.game.agents := by
  unfold runRemoveAgent at h ⊢
  cases hfound : p.game.agentNamed? name with
  | none =>
    simp only [Game.removeAgent, hfound] at h
    cases h
    cases hr
  | some a =>
    obtain ⟨before, after, hagents, hremove⟩ := Game.exists_removeAgent_eq hfound
    have hname : Text.lower a.name = Text.lower name :=
      Game.hasName_iff.mp (List.find?_some hfound)
    rw [hremove]
    exact ⟨before, a, after, hagents, rfl, hname⟩

/-- A command that is not refused touches only what it names. -/
theorem touches_run {c : Command} {r : Reply} (hnames : p.game.NamesDiffer)
    (h : (c.run settings p).1 = .ok r) (hr : r.isRefusal = false) :
    c.Touches p.game.agents (c.run settings p).2.game.agents := by
  cases howner : c.owner? with
  | some name =>
    cases hfound : p.game.agentNamed? name with
    | none =>
      rw [run_of_agentNamed?_eq_none howner hfound] at h
      cases h
      cases hr
    | some a =>
      have hchanges := changes_of_leads hnames hfound (leads_run settings p howner)
      cases c with
      | setIntelligence | assert | disavow | challenge | withdraw | editInference
      | editIncompatibility =>
        cases howner
        exact hchanges
      | _ => cases howner
  | none =>
    cases c with
    | addAgent name => exact touches_runAddAgent h hr
    | removeAgent name => exact touches_runRemoveAgent h hr
    | newGame => trivial
    | quit | help | listAgents | score | scoreAll | describe => rfl
    | _ => cases howner

end Command

/-! ## Lines -/

namespace Interpreter

/-- Whatever answer a line has: if it is a refusal, everybody is as before; otherwise the line is a
command, and touches only what this command names. -/
theorem execute_touches (it : Interpreter) {p : Play} (hnames : p.game.NamesDiffer) {line : String}
    {answer : Text} (h : (it.execute p line).1 = .ok answer) :
    ∃ r : Reply, (it.reply p line).1 = .ok r ∧ answer = r.text it.width ∧
      (r.isRefusal = true → (it.execute p line).2.game.agents = p.game.agents) ∧
      (r.isRefusal = false → ∃ c, Command.parse? line = some c ∧
        c.Touches p.game.agents (it.execute p line).2.game.agents) := by
  rw [execute_fst] at h
  rw [agents_execute]
  cases hreply : (it.reply p line).1 with
  | error e =>
    rw [hreply] at h
    cases h
  | ok r =>
    rw [hreply] at h
    refine ⟨r, rfl, (Except.ok.inj h).symm, ?_⟩
    unfold reply at hreply ⊢
    cases hc : Command.parse? line with
    | none =>
      rw [hc] at hreply
      cases hreply
      exact ⟨fun _ => rfl, fun hr => nomatch hr⟩
    | some c =>
      rw [hc] at hreply
      refine ⟨fun hr => ?_, fun hr => ⟨c, rfl, Command.touches_run hnames hreply hr⟩⟩
      exact congrArg (·.game.agents) (Command.harmless_run it.settings p c r hreply hr)

/-- Ann, who has challenged somebody who has left since. -/
def deserted : Agent := (Agent.newcomer {} "Ann" ⟨1⟩).disputing ⟨⟨9⟩, "A is red"⟩

/-- Ann and a newcomer. -/
def desertedPlay : Play := ⟨⟨[deserted, .newcomer {} "Bob" ⟨2⟩], []⟩, ⟨9⟩⟩

/-- Nobody is called Zed. Ann's challenge is withdrawn nevertheless, and nothing else is touched;
but where there is no such challenge the line is refused, and everybody is as before. -/
theorem execute_touches_deserted :
    let withdrawing := "Ann withdraws her challenge to Zed's entitlement to A is red"
    let refused := "Ann withdraws her challenge to Zed's entitlement to A is blue"
    desertedPlay.game.NamesDiffer ∧
      (Command.withdraw "Ann" "Zed" "A is red").Changes "Ann" desertedPlay.game.agents
        (execute {} desertedPlay withdrawing).2.game.agents ∧
      (execute {} desertedPlay withdrawing).2.game.agents.map (·.challenges.size) = [0, 0] ∧
      (execute {} desertedPlay refused).2.game.agents = desertedPlay.game.agents := by
  intro withdrawing refused
  have hnames : desertedPlay.game.NamesDiffer := by decide +kernel
  have hparse : Command.parse? withdrawing = some (.withdraw "Ann" "Zed" "A is red") := by
    decide +kernel
  have hanswered : ∀ line ∈ [withdrawing, refused],
      ((execute {} desertedPlay line).1.toOption.isSome = true) := by decide +kernel
  refine ⟨hnames, ?_, by decide +kernel, ?_⟩
  · cases hanswer : (execute {} desertedPlay withdrawing).1 with
    | error e =>
      have hsome := hanswered withdrawing (by simp)
      rw [hanswer] at hsome
      cases hsome
    | ok answer =>
      obtain ⟨r, hr, -, -, hdone⟩ := execute_touches {} hnames hanswer
      have hdecided : (reply {} desertedPlay withdrawing).1.toOption.map Reply.isRefusal =
          some false := by decide +kernel
      rw [hr] at hdecided
      obtain ⟨c, hc, htouches⟩ := hdone (Option.some.inj hdecided)
      cases hparse.symm.trans hc
      exact htouches
  · cases hanswer : (execute {} desertedPlay refused).1 with
    | error e =>
      have hsome := hanswered refused (by simp)
      rw [hanswer] at hsome
      cases hsome
    | ok answer =>
      obtain ⟨r, hr, -, hrefused, -⟩ := execute_touches {} hnames hanswer
      have hdecided : (reply {} desertedPlay refused).1.toOption.map Reply.isRefusal =
          some true := by decide +kernel
      rw [hr] at hdecided
      exact hrefused (Option.some.inj hdecided)

end Interpreter

end Discourse
