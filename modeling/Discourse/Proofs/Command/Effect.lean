import Discourse.Command.Run
import Discourse.Proofs.Attribution.Challenges
import Discourse.Proofs.Game.Changes

/-!
# What a command changes

A command that lets nobody in and sends nobody away changes one agent at most, the one that it is
about, and one part of it only. The game after it is the game with that agent changed.

* `Command.owner?`: the agent that a command is about.
* `Command.Affects`: what may become of that agent.
* `Command.leads_run`: the play after the command.
-/

namespace Discourse

variable {settings : Settings} {p : Play} {a : Agent} {name : String}

/-! ## Changes to one agent -/

theorem Play.withGame_modifyNamed_eq_self {f : Agent → Agent}
    (h : ∀ a, p.game.agentNamed? name = some a → f a = a) :
    p.withGame (p.game.modifyNamed name f) = p := by
  have hagents : Game.modifyFirst (Game.hasName name) f p.game.agents = p.game.agents :=
    Game.modifyFirst_eq_self h
  rw [Play.withGame, Game.modifyNamed, hagents]

/-- Where there is no agent of the name there is nothing to change. -/
theorem Play.change_snd (p : Play) (name : String) (f : Agent → Agent) :
    (p.change name f).2 = p.withGame (p.game.modifyNamed name f) := by
  unfold Play.change
  split
  next hnone =>
    refine (Play.withGame_modifyNamed_eq_self fun a ha => ?_).symm
    rw [hnone] at ha
    cases ha
  next => rfl

/-- A change to what an agent has become is a change to the agent. -/
theorem Play.change_const (f : Agent → Agent) (ha : p.game.agentNamed? name = some a) :
    p.change name (fun _ => f a) = p.change name f := by
  have hmodify : Game.modifyFirst (Game.hasName name) (fun _ => f a) p.game.agents =
      Game.modifyFirst (Game.hasName name) f p.game.agents := by
    refine Game.modifyFirst_congr fun b hb => ?_
    rw [Option.some.inj (ha.symm.trans hb)]
  simp only [change, ha, Game.modifyNamed, hmodify]

namespace Command

/-! ## Whom a command changes, and how -/

/-- The agent that a command is about and may change. -/
def owner? : Command → Option String
  | setIntelligence name _ => some name
  | assert speaker _ | disavow speaker _ | challenge speaker _ _ | withdraw speaker _ _
  | editInference speaker _ _ _ _ | editIncompatibility speaker _ _ => some speaker
  | _ => none

/-- What a command may make of the agent that it is about: one part of it changes at most. -/
def Affects (c : Command) (a b : Agent) : Prop :=
  match c with
  | setIntelligence _ _ => ∃ intelligence, b = { a with intelligence }
  | assert _ _ | disavow _ _ => ∃ avowed, b = { a with avowed }
  | challenge _ _ _ | withdraw _ _ _ => ∃ challenges, b = { a with challenges }
  | editInference _ _ kind _ _ => ∃ change, b = a.changeInferences kind change
  | editIncompatibility _ _ _ => ∃ change, b = a.changeIncompatibilities change
  | _ => b = a

theorem affects_self (c : Command) (a : Agent) : c.Affects a a := by
  cases c with
  | setIntelligence => exact ⟨a.intelligence, rfl⟩
  | assert | disavow => exact ⟨a.avowed, rfl⟩
  | challenge | withdraw => exact ⟨a.challenges, rfl⟩
  | editInference _ _ kind => exact ⟨id, by cases kind <;> rfl⟩
  | editIncompatibility => exact ⟨id, rfl⟩
  | _ => rfl

/-- The play is the one before, with the agent of the name changed as the command may change it. -/
def Leads (c : Command) (name : String) (p q : Play) : Prop :=
  ∃ f : Agent → Agent, (∀ a, c.Affects a (f a)) ∧ q = p.withGame (p.game.modifyNamed name f)

theorem leads_self (c : Command) (name : String) (p : Play) : c.Leads name p p :=
  ⟨fun a => a, c.affects_self, (Play.withGame_modifyNamed_eq_self fun _ _ => rfl).symm⟩

theorem leads_change {c : Command} {f : Agent → Agent} (p : Play) (name : String)
    (hf : ∀ a, c.Affects a (f a)) : c.Leads name p (p.change name f).2 :=
  ⟨f, hf, p.change_snd name f⟩

/-! ## The play after a command -/

theorem leads_runSetIntelligence (p : Play) (name digits : String) :
    (setIntelligence name digits).Leads name p (runSetIntelligence p name digits).2 := by
  unfold runSetIntelligence
  split
  · exact leads_self _ name p
  · split
    · exact leads_self _ name p
    next n _ => exact leads_change p name fun a => ⟨n, rfl⟩

theorem leads_runDisavow (p : Play) (speaker : String) (s : Sentence) :
    (disavow speaker s).Leads speaker p (runDisavow p speaker s).2 := by
  unfold runDisavow
  split
  · exact leads_self _ speaker p
  · split
    · exact leads_change p speaker fun a => ⟨a.avowed.erase s, rfl⟩
    · exact leads_self _ speaker p

theorem leads_runChallenge (p : Play) (speaker target : String) (s : Sentence) :
    (challenge speaker target s).Leads speaker p (runChallenge p speaker target s).2 := by
  unfold runChallenge
  split
  · exact leads_self _ speaker p
  next a ha =>
    split
    · exact leads_self _ speaker p
    next t ht =>
      split
      · exact leads_self _ speaker p
      next challenger hc =>
        obtain rfl : a.disputing ⟨t.id, s⟩ = challenger := by
          unfold Agent.challenge at hc
          split at hc
          · exact Option.some.inj hc
          · cases hc
        rw [Play.change_const (.disputing ⟨t.id, s⟩) ha]
        exact leads_change p speaker fun b => ⟨b.challenges.insert ⟨t.id, s⟩, rfl⟩

theorem leads_runWithdraw (p : Play) (speaker target : String) (s : Sentence) :
    (withdraw speaker target s).Leads speaker p (runWithdraw p speaker target s).2 := by
  unfold runWithdraw
  split
  · exact leads_self _ speaker p
  · split
    next t _ => exact leads_change p speaker fun b => ⟨b.challenges.erase ⟨t.id, s⟩, rfl⟩
    · split
      · exact leads_self _ speaker p
      · exact leads_change p speaker fun b => ⟨_, rfl⟩

/-- A command that is about somebody changes nobody else, and of that agent one part at most. -/
theorem leads_run {c : Command} (settings : Settings) (p : Play) (h : c.owner? = some name) :
    c.Leads name p (c.run settings p).2 := by
  cases c with
  | setIntelligence owner digits =>
    cases h
    exact leads_runSetIntelligence p name digits
  | assert speaker s =>
    cases h
    exact leads_change p name fun a => ⟨a.avowed.insert s, rfl⟩
  | disavow speaker s =>
    cases h
    exact leads_runDisavow p name s
  | challenge speaker target s =>
    cases h
    exact leads_runChallenge p name target s
  | withdraw speaker target s =>
    cases h
    exact leads_runWithdraw p name target s
  | editInference speaker edit kind premises conclusion =>
    cases h
    exact leads_change p name fun a => ⟨_, rfl⟩
  | editIncompatibility speaker edit sentences =>
    cases h
    exact leads_change p name fun a => ⟨_, rfl⟩
  | _ => cases h

end Command

end Discourse
