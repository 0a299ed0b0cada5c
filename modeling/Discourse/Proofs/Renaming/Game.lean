import Discourse.Proofs.Command.Material
import Discourse.Proofs.Renaming.Agent

/-!
# Commands under renaming

No command that lets nobody in looks at an identifier otherwise than to compare it with another
one. So it does to a renamed game what it does to the game, and no answer shows an identifier.

* `Game.rename`: a game under other identifiers.
* `Game.rename_congr`: only the identifiers in a game matter.
* `Reply.text_rename`: the answer in words is the same.
* `Command.run_rename`: a command that lets nobody in.
-/

namespace Discourse

open Equiv (Perm)

variable (σ : Perm AgentId)

/-! ## Games -/

namespace Game

/-- The game with all identifiers replaced. -/
def rename (g : Game) : Game := { g with agents := g.agents.map (Agent.rename σ) }

@[simp] theorem agents_rename (g : Game) :
    (g.rename σ).agents = g.agents.map (Agent.rename σ) := rfl
@[simp] theorem transcript_rename (g : Game) : (g.rename σ).transcript = g.transcript := rfl

theorem agentNamed?_rename (g : Game) (name : Text) :
    (g.rename σ).agentNamed? name = (g.agentNamed? name).map (Agent.rename σ) :=
  List.find?_map

theorem modifyNamed_rename (g : Game) (name : Text) {f f' : Agent → Agent}
    (h : ∀ a, (f a).rename σ = f' (a.rename σ)) :
    (g.modifyNamed name f).rename σ = (g.rename σ).modifyNamed name f' := by
  have hname : ∀ a, hasName name (a.rename σ) = hasName name a := fun _ => rfl
  exact congrArg (fun as => { g with agents := as }) (map_modifyFirst hname h)

theorem present_rename (g : Game) : (g.rename σ).present = g.present.map σ := by
  rw [present, present, agents_rename, List.map_map, List.map_map]
  rfl

theorem nameOf?_rename (g : Game) (id : AgentId) : (g.rename σ).nameOf? (σ id) = g.nameOf? id := by
  have hp : ((fun a : Agent => a.id == σ id) ∘ Agent.rename σ) = fun a => a.id == id := by
    funext a
    exact OrderedSet.beq_map σ.injective a.id id
  rw [nameOf?, agents_rename, List.find?_map, hp, Option.map_map]
  rfl

/-- Renamings that agree on the identifiers in a game do the same to it. -/
theorem rename_congr {m : Material} {g : Game} {τ : Perm AgentId} (hg : g.MadeOf m)
    (h : ∀ id, m.id id → σ id = τ id) : g.rename σ = g.rename τ := by
  have hagent : ∀ a ∈ g.agents, a.rename σ = a.rename τ := by
    intro a ha
    have hid := h a.id (hg.agents a ha).id
    have hchallenges : a.challenges.map (Challenge.rename σ) (Challenge.rename_injective σ) =
        a.challenges.map (Challenge.rename τ) (Challenge.rename_injective τ) := by
      ext1
      refine List.map_congr_left fun c hc => ?_
      rw [Challenge.rename, h c.target ((hg.agents a ha).challenges c hc).1]
      rfl
    rw [Agent.rename, hid, hchallenges]
    rfl
  rw [rename, List.map_congr_left hagent]
  rfl

end Game

/-! ## Descriptions and replies -/

/-- The description with the identifiers of the targets replaced. -/
def Description.rename (d : Description) : Description :=
  { d with challenges := d.challenges.map fun c => { c with target := σ c.target } }

theorem Game.descriptionOf_rename (g : Game) (a : Agent) :
    (g.rename σ).descriptionOf (a.rename σ) = (g.descriptionOf a).rename σ := by
  rw [descriptionOf, descriptionOf, Description.rename, Agent.challenges_rename,
    OrderedSet.toList_map, List.map_map, List.map_map]
  simp only [Function.comp_def, Challenge.rename, nameOf?_rename]
  rfl

/-- The reply with the identifiers in it replaced. -/
def Reply.rename : Reply → Reply
  | .descriptions ds => .descriptions (ds.map (Description.rename σ))
  | .portrait d self => .portrait (d.rename σ) self
  | r => r

theorem Description.agent_rename (d : Description) (width : Int) :
    Listing.agent (d.rename σ) width = Listing.agent d width := by
  have hchallenges :
      (d.rename σ).challenges.map (fun c => Listing.challenge c.targetName c.sentence) =
        d.challenges.map fun c => Listing.challenge c.targetName c.sentence := by
    rw [rename, List.map_map]
    rfl
  rw [Listing.agent, hchallenges]
  rfl

/-- No answer shows an identifier. -/
theorem Reply.text_rename (r : Reply) (width : Int) : (r.rename σ).text width = r.text width := by
  cases r with
  | descriptions ds =>
    simp only [rename, text, List.map_map, Function.comp_def, Description.agent_rename]
  | portrait d self => rw [rename, text, Description.agent_rename, text]
  | _ => rfl

/-! ## Commands -/

/-- What has been done and answered, under other identifiers and with another supply. -/
def renamed (ids : IdSupply) (r : Except CommandFailure Reply × Play) :
    Except CommandFailure Reply × Play :=
  (r.1.map (Reply.rename σ), ⟨r.2.game.rename σ, ids⟩)

variable {g : Game} {ids ids' : IdSupply}

theorem Play.answerScores_rename :
    Play.answerScores ⟨g.rename σ, ids'⟩ = renamed σ ids' (Play.answerScores ⟨g, ids⟩) := by
  rw [answerScores, Game.agents_rename, scoreAll_rename]
  rfl

theorem Play.change_rename {name : String} {f f' : Agent → Agent}
    (h : ∀ a, (f a).rename σ = f' (a.rename σ)) :
    Play.change ⟨g.rename σ, ids'⟩ name f' = renamed σ ids' (Play.change ⟨g, ids⟩ name f) := by
  simp only [change, Game.agentNamed?_rename]
  cases g.agentNamed? name with
  | none => rfl
  | some a =>
    have hmodify := Game.modifyNamed_rename σ g name h
    simp only [Option.map_some, withGame, ← hmodify]
    exact answerScores_rename σ

namespace Command

theorem runRemoveAgent_rename (name : String) :
    runRemoveAgent ⟨g.rename σ, ids'⟩ name = renamed σ ids' (runRemoveAgent ⟨g, ids⟩ name) := by
  simp only [runRemoveAgent, Game.removeAgent, Game.agentNamed?_rename]
  cases g.agentNamed? name with
  | none => rfl
  | some a =>
    have herase : (g.agents.map (Agent.rename σ)).eraseP (Game.hasName name) =
        (g.agents.eraseP (Game.hasName name)).map (Agent.rename σ) := List.eraseP_map
    simp only [Option.map_some, Game.agents_rename, herase]
    rfl

theorem scoreReply_rename (g : Game) (keeper other : String) :
    scoreReply (g.rename σ) keeper other = (scoreReply g keeper other).rename σ := by
  simp only [scoreReply, Game.agentNamed?_rename]
  cases g.agentNamed? keeper with
  | none => rfl
  | some k =>
    cases g.agentNamed? other with
    | none => rfl
    | some o => exact congrArg Reply.score (score_rename σ g.agents k o)

theorem runSetIntelligence_rename (name digits : String) :
    runSetIntelligence ⟨g.rename σ, ids'⟩ name digits =
      renamed σ ids' (runSetIntelligence ⟨g, ids⟩ name digits) := by
  simp only [runSetIntelligence, Game.agentNamed?_rename]
  cases g.agentNamed? name with
  | none => rfl
  | some a =>
    cases Text.readDigits digits.toList with
    | error e => rfl
    | ok n => exact Play.change_rename σ fun _ => rfl

theorem runDisavow_rename (speaker : String) (s : Sentence) :
    runDisavow ⟨g.rename σ, ids'⟩ speaker s = renamed σ ids' (runDisavow ⟨g, ids⟩ speaker s) := by
  simp only [runDisavow, Game.agentNamed?_rename]
  cases g.agentNamed? speaker with
  | none => rfl
  | some a =>
    have hsame : (a.rename σ).avowed.contains s = a.avowed.contains s := rfl
    simp only [Option.map_some]
    by_cases hs : a.avowed.contains s = true
    · rw [if_pos hs, if_pos (hsame.trans hs)]
      exact Play.change_rename σ fun _ => rfl
    · rw [if_neg hs, if_neg (hsame ▸ hs)]
      rfl

theorem runChallenge_rename (speaker target : String) (s : Sentence) :
    runChallenge ⟨g.rename σ, ids'⟩ speaker target s =
      renamed σ ids' (runChallenge ⟨g, ids⟩ speaker target s) := by
  simp only [runChallenge, Game.agentNamed?_rename]
  cases g.agentNamed? speaker with
  | none => rfl
  | some a =>
    cases g.agentNamed? target with
    | none => rfl
    | some t =>
      simp only [Option.map_some, Agent.challenge_rename]
      cases a.challenge t s with
      | none => rfl
      | some challenger => exact Play.change_rename σ fun _ => rfl

theorem runWithdraw_rename (speaker target : String) (s : Sentence) :
    runWithdraw ⟨g.rename σ, ids'⟩ speaker target s =
      renamed σ ids' (runWithdraw ⟨g, ids⟩ speaker target s) := by
  simp only [runWithdraw, Game.agentNamed?_rename]
  cases g.agentNamed? speaker with
  | none => rfl
  | some a =>
    cases g.agentNamed? target with
    | some t => exact Play.change_rename σ fun b => b.withdraw_rename σ t s
    | none =>
      simp only [Option.map_some, Option.map_none, Game.present_rename, Agent.danglingCount_rename]
      split
      · rfl
      · exact Play.change_rename σ fun b => b.withdrawDangling_rename σ g.present s

theorem descriptionsOf_rename (g : Game) :
    descriptionsOf (g.rename σ) = (descriptionsOf g).map (Description.rename σ) := by
  have hfound : ∀ a : Agent, ((g.agentNamed? a.name).map (Agent.rename σ)).getD (a.rename σ) =
      ((g.agentNamed? a.name).getD a).rename σ := by
    intro a
    cases g.agentNamed? a.name <;> rfl
  simp only [descriptionsOf, Game.agents_rename, List.map_map, Function.comp_def,
    Agent.name_rename, Game.agentNamed?_rename, hfound, Game.descriptionOf_rename]

theorem describeReply_rename (g : Game) (name : String) :
    describeReply (g.rename σ) name = (describeReply g name).rename σ := by
  simp only [describeReply, Game.agentNamed?_rename]
  cases g.agentNamed? name with
  | none => rfl
  | some a =>
    simp only [Option.map_some, Game.descriptionOf_rename, Game.agents_rename, score_rename]
    rfl

/-- A command that lets nobody in does the same under other identifiers. -/
theorem run_rename (settings : Settings) {c : Command} (h : c.letsIn = false) :
    c.run settings ⟨g.rename σ, ids'⟩ = renamed σ ids' (c.run settings ⟨g, ids⟩) := by
  cases c with
  | addAgent name => cases h
  | newGame => cases h
  | quit => rfl
  | help => rfl
  | listAgents =>
    rw [run, descriptionsOf_rename]
    rfl
  | removeAgent name => exact runRemoveAgent_rename σ name
  | score keeper other =>
    rw [run, scoreReply_rename]
    rfl
  | scoreAll => exact Play.answerScores_rename σ
  | setIntelligence name digits => exact runSetIntelligence_rename σ name digits
  | assert speaker s => exact Play.change_rename σ fun _ => rfl
  | disavow speaker s => exact runDisavow_rename σ speaker s
  | challenge speaker target s => exact runChallenge_rename σ speaker target s
  | withdraw speaker target s => exact runWithdraw_rename σ speaker target s
  | editInference => exact Play.change_rename σ fun _ => rfl
  | editIncompatibility => exact Play.change_rename σ fun _ => rfl
  | describe name =>
    rw [run, describeReply_rename]
    rfl

end Command

end Discourse
