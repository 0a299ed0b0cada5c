import Discourse.Proofs.Game.Changes
import Discourse.Proofs.Material

/-!
# What games are made of

Agents come into a game with what their seeds and the settings give them, and they leave with what
they have. So a game is made of what comes into it.

* `Game.MadeOf`: the properties of a material hold of everything in a game.
* `Game.MadeOf.addAgent`, `Game.madeOf_newGame`: joining.
* `Game.MadeOf.removeAgent`, `Game.MadeOf.modifyNamed`, `Game.MadeOf.record`: leaving, changing and
  saying.
-/

namespace Discourse.Game

variable {m : Material} {g : Game}

/-- Everything in a game is of the material. -/
structure MadeOf (m : Material) (g : Game) : Prop where
  agents : ∀ a ∈ g.agents, a.MadeOf m
  transcript : ∀ e ∈ g.transcript, m.said e.input ∧ m.said e.output

theorem madeOf_empty : MadeOf m {} := by
  constructor <;> rintro _ ⟨⟩

/-! ## Joining -/

/-- A newcomer is refused for its name, refused for its depth, or joins at the end. -/
theorem addAgent_cases (g : Game) (defaults : Settings) (name : Text) (seed : Seed)
    (ids : IdSupply) :
    ((g.agentNamed? name).isSome = true ∧
      g.addAgent defaults name seed ids = (.error (.duplicateName name), g, ids)) ∨
    (g.agentNamed? name = none ∧ ∃ e ids', Agent.create defaults name seed ids = (.error e, ids') ∧
      g.addAgent defaults name seed ids = (.error e, g, ids')) ∨
    (g.agentNamed? name = none ∧ ∃ a ids', Agent.create defaults name seed ids = (.ok a, ids') ∧
      g.addAgent defaults name seed ids = (.ok a, { g with agents := g.agents ++ [a] }, ids')) := by
  unfold addAgent
  cases hn : g.agentNamed? name with
  | some a => exact Or.inl ⟨rfl, rfl⟩
  | none =>
    cases hc : Agent.create defaults name seed ids with
    | mk result ids' =>
      cases result with
      | error e => exact Or.inr (Or.inl ⟨rfl, e, ids', rfl, rfl⟩)
      | ok a => exact Or.inr (Or.inr ⟨rfl, a, ids', rfl, rfl⟩)

theorem drawn_le_addAgent (g : Game) (defaults : Settings) (name : Text) (seed : Seed)
    (ids : IdSupply) : ids.drawn ≤ (g.addAgent defaults name seed ids).2.2.drawn := by
  have hcreate := Agent.drawn_le_create defaults name seed ids
  rcases addAgent_cases g defaults name seed ids with
    ⟨-, h⟩ | ⟨-, e, ids', hc, h⟩ | ⟨-, a, ids', hc, h⟩
  · exact Nat.le_of_eq (congrArg (·.2.2.drawn) h.symm)
  · rw [h]
    rwa [hc] at hcreate
  · rw [h]
    rwa [hc] at hcreate

theorem MadeOf.addAgent {defaults : Settings} {name : Text} {seed : Seed} (ids : IdSupply)
    (h : g.MadeOf m) (hd : defaults.MadeOf m) (hname : m.text name) (hseed : seed.MadeOf m)
    (hids : ∀ n ≤ (g.addAgent defaults name seed ids).2.2.drawn, m.id ⟨n⟩) :
    (g.addAgent defaults name seed ids).2.1.MadeOf m := by
  rcases addAgent_cases g defaults name seed ids with
    ⟨-, he⟩ | ⟨-, e, ids', hc, he⟩ | ⟨-, a, ids', hc, he⟩
  · rwa [he]
  · rwa [he]
  · rw [he] at hids ⊢
    have ha : a.MadeOf m := Agent.MadeOf.create hd hname hseed hids hc
    refine ⟨?_, h.transcript⟩
    intro b hb
    rcases List.mem_append.mp hb with hb | hb
    · exact h.agents b hb
    · rw [List.mem_singleton.mp hb]
      exact ha

theorem drawn_le_addAgents (g : Game) (defaults : Settings) (names : List Text) (ids : IdSupply) :
    ids.drawn ≤ (g.addAgents defaults ids names).2.2.drawn := by
  induction names generalizing g ids with
  | nil => exact Nat.le_refl ids.drawn
  | cons name names ih =>
    have hadd := drawn_le_addAgent g defaults name {} ids
    unfold addAgents
    split
    next h =>
      rw [h] at hadd
      exact Nat.le_trans hadd (ih _ _)
    next h => rwa [h] at hadd

theorem MadeOf.addAgents {defaults : Settings} {names : List Text} {ids : IdSupply}
    (h : g.MadeOf m) (hd : defaults.MadeOf m) (hnames : ∀ t ∈ names, m.text t)
    (hids : ∀ n ≤ (g.addAgents defaults ids names).2.2.drawn, m.id ⟨n⟩) :
    (g.addAgents defaults ids names).2.1.MadeOf m := by
  induction names generalizing g ids with
  | nil => exact h
  | cons name names ih =>
    obtain ⟨hname, hnames⟩ := List.forall_mem_cons.mp hnames
    have hadd := MadeOf.addAgent ids h hd hname Seed.madeOf_empty
    unfold Game.addAgents at hids ⊢
    split at hids
    next g' ids' ha =>
      rw [ha] at hadd
      have hfirst : ∀ n ≤ ids'.drawn, m.id ⟨n⟩ := fun n hn =>
        hids n (Nat.le_trans hn (drawn_le_addAgents _ defaults names ids'))
      exact ih (hadd hfirst) hnames hids
    next ha =>
      rw [ha] at hadd
      exact hadd hids

theorem madeOf_newGame {defaults : Settings} (ids : IdSupply) (hd : defaults.MadeOf m)
    (hids : ∀ n ≤ (newGame defaults ids).2.2.drawn, m.id ⟨n⟩) :
    (newGame defaults ids).2.1.MadeOf m :=
  madeOf_empty.addAgents hd hd.seedAgents hids

/-! ## Leaving, changing and saying -/

theorem MadeOf.removeAgent {name : Text} {r : Agent × Game} (h : g.MadeOf m)
    (hr : g.removeAgent name = .ok r) : r.2.MadeOf m := by
  unfold Game.removeAgent at hr
  split at hr
  · cases hr
    exact ⟨fun a ha => h.agents a (List.mem_of_mem_eraseP ha), h.transcript⟩
  · cases hr

/-- Only the agent that a look-up finds has to stay of the material. -/
theorem MadeOf.modifyNamed {name : Text} {f : Agent → Agent} (h : g.MadeOf m)
    (hf : ∀ a, g.agentNamed? name = some a → (f a).MadeOf m) : (g.modifyNamed name f).MadeOf m := by
  refine ⟨?_, h.transcript⟩
  intro b hb
  rcases mem_modifyFirst hb with hb | ⟨a, ha, rfl⟩
  · exact h.agents b hb
  · exact hf a ha

theorem MadeOf.agentNamed? {name : Text} {a : Agent} (h : g.MadeOf m)
    (ha : g.agentNamed? name = some a) : a.MadeOf m :=
  h.agents a (List.mem_of_find?_eq_some ha)

theorem MadeOf.record {input output : Text} (h : g.MadeOf m) (hin : m.said input)
    (hout : m.said output) : (g.record input output).MadeOf m := by
  refine ⟨h.agents, ?_⟩
  intro e he
  rcases List.mem_append.mp he with he | he
  · exact h.transcript e he
  · rw [List.mem_singleton.mp he]
    exact ⟨hin, hout⟩

theorem MadeOf.within {m' : Material} (h : g.MadeOf m) (hm : m.Within m') : g.MadeOf m' where
  agents := fun a ha => (h.agents a ha).within hm
  transcript := fun e he =>
    ⟨hm.said _ (h.transcript e he).1, hm.said _ (h.transcript e he).2⟩

end Discourse.Game
