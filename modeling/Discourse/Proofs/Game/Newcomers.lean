import Discourse.Game

/-!
# Newcomers

An agent that is announced by its name alone leaves everything else to the settings. It is refused
when its name is taken, and for no other reason.

* `Game.addAgent_newcomer`: one newcomer.
* `Game.transcript_newGame`: the transcript when the configured agents have joined.
* `Game.forall_mem_newGame`: what the configured newcomers have, everybody in a new game has.
-/

namespace Discourse

/-- A newcomer that leaves everything to the settings. -/
def Agent.newcomer (settings : Settings) (name : Text) (id : AgentId) : Agent where
  id := id
  name := name
  intelligence := settings.defaultIntelligence
  avowed := ∅
  rules := Seed.rules settings {}
  challenges := ∅

theorem Agent.create_newcomer (settings : Settings) (name : Text) (ids : IdSupply) :
    create settings name {} ids = (.ok (newcomer settings name ids.draw.1), ids.draw.2) := by
  have hdepth : ¬ ((settings.defaultIntelligence : Int) < 0) := by omega
  simp only [create, Option.getD_none, hdepth, if_false]
  rfl

namespace Game

/-- A newcomer is refused when its name is taken, and joins at the end otherwise. -/
theorem addAgent_newcomer (g : Game) (settings : Settings) (name : Text) (ids : IdSupply) :
    g.addAgent settings name {} ids =
      if (g.agentNamed? name).isSome then (.error (.duplicateName name), g, ids)
      else
        (.ok (.newcomer settings name ids.draw.1),
          { g with agents := g.agents ++ [.newcomer settings name ids.draw.1] }, ids.draw.2) := by
  unfold addAgent
  cases g.agentNamed? name with
  | some a => rfl
  | none =>
    rw [Agent.create_newcomer]
    rfl

theorem transcript_addAgents (settings : Settings) (names : List Text) (g : Game)
    (ids : IdSupply) : (g.addAgents settings ids names).2.1.transcript = g.transcript := by
  induction names generalizing g ids with
  | nil => rfl
  | cons name names ih =>
    rw [addAgents, addAgent_newcomer]
    cases (g.agentNamed? name).isSome with
    | true => rfl
    | false => exact ih _ _

/-- Nothing was said yet when a game begins. -/
theorem transcript_newGame (settings : Settings) (ids : IdSupply) :
    (newGame settings ids).2.1.transcript = [] :=
  transcript_addAgents settings settings.seedAgents {} ids

section Agents

variable {settings : Settings} {property : Agent → Prop} {g : Game} {ids : IdSupply}

/-- Whoever is there after somebody is announced was there before, or is the newcomer. -/
theorem forall_mem_addAgent {name : Text} (hg : ∀ a ∈ g.agents, property a)
    (hnew : ∀ id, property (.newcomer settings name id)) :
    ∀ a ∈ (g.addAgent settings name {} ids).2.1.agents, property a := by
  rw [addAgent_newcomer]
  cases (g.agentNamed? name).isSome with
  | true => exact hg
  | false =>
    intro a ha
    rcases List.mem_append.mp ha with ha | ha
    · exact hg a ha
    · rw [List.mem_singleton.mp ha]
      exact hnew _

theorem forall_mem_addAgents {names : List Text} (hg : ∀ a ∈ g.agents, property a)
    (hnew : ∀ name ∈ names, ∀ id, property (.newcomer settings name id)) :
    ∀ a ∈ (g.addAgents settings ids names).2.1.agents, property a := by
  induction names generalizing g ids with
  | nil => exact hg
  | cons name names ih =>
    obtain ⟨hname, hnames⟩ := List.forall_mem_cons.mp hnew
    have hadd : ∀ a ∈ (g.addAgent settings name {} ids).2.1.agents, property a :=
      forall_mem_addAgent hg hname
    rw [addAgents]
    rw [addAgent_newcomer] at hadd ⊢
    cases hnamed : (g.agentNamed? name).isSome with
    | true => exact hg
    | false =>
      rw [hnamed] at hadd
      exact ih hadd hnames

/-- Whoever is in a new game is a newcomer of a configured name. -/
theorem forall_mem_newGame
    (hnew : ∀ name ∈ settings.seedAgents, ∀ id, property (.newcomer settings name id)) :
    ∀ a ∈ (newGame settings ids).2.1.agents, property a :=
  forall_mem_addAgents (by rintro _ ⟨⟩) hnew

end Agents

end Game

end Discourse
