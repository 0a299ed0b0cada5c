import Discourse.Command.Run
import Discourse.Proofs.Game.Material
import Mathlib.Data.List.Nodup

/-!
# Names

As long as no two agents share a name, a look-up finds the one agent of a name and nobody else.
A newcomer whose name is taken is refused, and whoever joins, leaves or changes keeps its name, so
names stay distinct.

* `Game.NamesDiffer`: no two of those present share a name.
* `Game.NamesDiffer.agentNamed?_eq_some_iff`, `Game.agentNamed?_eq_none_iff`: looking up.
* `Game.NamesDiffer.addAgent`, `Game.namesDiffer_newGame`, `Game.NamesDiffer.of_names`: names stay
  distinct.
* `Game.NamesAreKeys`: what a name is good for then.
-/

namespace Discourse.Game

variable {g g' : Game} {name : Text} {a b : Agent}

/-- No two of those present share a name, in whatever case. -/
def NamesDiffer (g : Game) : Prop := (g.agents.map fun a => Text.lower a.name).Nodup

instance (g : Game) : Decidable g.NamesDiffer :=
  inferInstanceAs (Decidable (g.agents.map fun a => Text.lower a.name).Nodup)

/-! ## Looking up -/

theorem hasName_iff : hasName name a = true ↔ Text.lower a.name = Text.lower name := beq_iff_eq

theorem agentNamed?_eq_none_iff :
    g.agentNamed? name = none ↔ ∀ a ∈ g.agents, Text.lower a.name ≠ Text.lower name := by
  rw [agentNamed?, List.find?_eq_none]
  simp only [hasName_iff, ne_eq]

theorem isSome_agentNamed?_iff :
    (g.agentNamed? name).isSome = true ↔
      ∃ a ∈ g.agents, Text.lower a.name = Text.lower name := by
  rw [agentNamed?, List.find?_isSome]
  simp only [hasName_iff]

theorem getAgent_eq_ok_iff : g.getAgent name = .ok a ↔ g.agentNamed? name = some a := by
  unfold getAgent
  cases g.agentNamed? name <;> simp

theorem getAgent_eq_error_iff {e : GameError} :
    g.getAgent name = .error e ↔ e = .agentNotFound name ∧ g.agentNamed? name = none := by
  unfold getAgent
  cases g.agentNamed? name <;> simp [eq_comm]

namespace NamesDiffer

theorem eq_of_lower (h : g.NamesDiffer) (ha : a ∈ g.agents) (hb : b ∈ g.agents)
    (hname : Text.lower a.name = Text.lower b.name) : a = b :=
  List.inj_on_of_nodup_map h ha hb hname

/-- A look-up finds the one agent of the name. -/
theorem agentNamed?_eq_some_iff (h : g.NamesDiffer) :
    g.agentNamed? name = some a ↔
      a ∈ g.agents ∧ Text.lower a.name = Text.lower name := by
  constructor
  · intro hfound
    exact ⟨List.mem_of_find?_eq_some hfound, hasName_iff.mp (List.find?_some hfound)⟩
  · rintro ⟨ha, hname⟩
    cases hfound : g.agentNamed? name with
    | none => exact absurd hname (agentNamed?_eq_none_iff.mp hfound a ha)
    | some b =>
      have hb : Text.lower b.name = Text.lower name := hasName_iff.mp (List.find?_some hfound)
      have hmem : b ∈ g.agents := List.mem_of_find?_eq_some hfound
      rw [h.eq_of_lower hmem ha (hb.trans hname.symm)]

theorem agentNamed?_self (h : g.NamesDiffer) (ha : a ∈ g.agents) :
    g.agentNamed? a.name = some a :=
  h.agentNamed?_eq_some_iff.mpr ⟨ha, rfl⟩

/-- Under its own name everybody is described as it is. -/
theorem describe (h : g.NamesDiffer) (ha : a ∈ g.agents) :
    g.describe a.name = .ok (g.descriptionOf a) := by
  have hget : g.getAgent a.name = .ok a := getAgent_eq_ok_iff.mpr (h.agentNamed?_self ha)
  rw [Game.describe, hget]

theorem descriptionsOf (h : g.NamesDiffer) :
    Command.descriptionsOf g = g.agents.map g.descriptionOf := by
  refine List.map_congr_left fun a ha => ?_
  rw [h.agentNamed?_self ha, Option.getD_some]

end NamesDiffer

/-! ## Joining -/

theorem namesDiffer_append (h : g.NamesDiffer) (hfree : g.agentNamed? a.name = none)
    (es : List Exchange) : NamesDiffer ⟨g.agents ++ [a], es⟩ := by
  have hnew : Text.lower a.name ∉ g.agents.map fun b => Text.lower b.name := by
    intro hmem
    obtain ⟨b, hb, he⟩ := List.mem_map.mp hmem
    exact agentNamed?_eq_none_iff.mp hfree b hb he
  rw [NamesDiffer, List.map_append, List.map_singleton]
  exact List.Nodup.append h (List.nodup_singleton _) (List.disjoint_singleton.mpr hnew)

/-- Whether the newcomer is let in or refused, names stay distinct. -/
theorem NamesDiffer.addAgent (h : g.NamesDiffer) (defaults : Settings) (name : Text) (seed : Seed)
    (ids : IdSupply) : (g.addAgent defaults name seed ids).2.1.NamesDiffer := by
  rcases addAgent_cases g defaults name seed ids with
    ⟨-, he⟩ | ⟨-, e, ids', -, he⟩ | ⟨hfree, a, ids', hc, he⟩
  · rwa [he]
  · rwa [he]
  · have hname : a.name = name := by rw [Agent.eq_of_create hc]
    rw [he]
    exact namesDiffer_append h (hname ▸ hfree) g.transcript

/-- A newcomer is refused for its name exactly when somebody has it. -/
theorem addAgent_eq_duplicateName_iff {defaults : Settings} {seed : Seed} {ids : IdSupply}
    {taken : Text} :
    (g.addAgent defaults name seed ids).1 = .error (.duplicateName taken) ↔
      taken = name ∧ ∃ a ∈ g.agents, Text.lower a.name = Text.lower name := by
  rw [← isSome_agentNamed?_iff]
  rcases addAgent_cases g defaults name seed ids with
    ⟨hsome, he⟩ | ⟨hnone, e, ids', hc, he⟩ | ⟨hnone, a, ids', hc, he⟩
  · rw [he, hsome]
    simp [eq_comm]
  · have hdepth : ∃ value, e = .negativeIntelligence value := Agent.eq_of_create_eq_error hc
    obtain ⟨value, rfl⟩ := hdepth
    rw [he, hnone]
    simp
  · rw [he, hnone]
    simp

/-- A new game keeps names distinct even if one of the configured agents is refused. -/
theorem NamesDiffer.addAgents (h : g.NamesDiffer) (defaults : Settings) (names : List Text)
    (ids : IdSupply) : (g.addAgents defaults ids names).2.1.NamesDiffer := by
  induction names generalizing g ids with
  | nil => exact h
  | cons name names ih =>
    have hadd := h.addAgent defaults name {} ids
    unfold Game.addAgents
    split
    next hok =>
      rw [hok] at hadd
      exact ih hadd _
    next herror => rwa [herror] at hadd

theorem namesDiffer_empty : NamesDiffer {} := List.nodup_nil

theorem namesDiffer_newGame (defaults : Settings) (ids : IdSupply) :
    (newGame defaults ids).2.1.NamesDiffer :=
  namesDiffer_empty.addAgents defaults defaults.seedAgents ids

/-! ## Leaving and changing -/

/-- Nobody else has the name of somebody who is present. -/
theorem NamesDiffer.ne_of_mem {before after : List Agent} (h : g.NamesDiffer)
    (hagents : g.agents = before ++ a :: after) :
    ∀ b ∈ before ++ after, Text.lower b.name ≠ Text.lower a.name := by
  have hnodup : ((before ++ a :: after).map fun b => Text.lower b.name).Nodup := hagents ▸ h
  rw [(List.perm_middle.map _).nodup_iff, List.map_cons, List.nodup_cons] at hnodup
  intro b hb he
  exact hnodup.1 (List.mem_map.mpr ⟨b, hb, he⟩)

/-- The one agent of the name leaves, and the others stay in their order. -/
theorem exists_removeAgent_eq (hfound : g.agentNamed? name = some a) :
    ∃ before after, g.agents = before ++ a :: after ∧
      g.removeAgent name = .ok (a, { g with agents := before ++ after }) := by
  obtain ⟨hname, before, after, hagents, hbefore⟩ := List.find?_eq_some_iff_append.mp hfound
  have herase : g.agents.eraseP (hasName name) = before ++ after := by
    rw [hagents, List.eraseP_append_right _ (by simpa using hbefore), List.eraseP_cons_of_pos hname]
  refine ⟨before, after, hagents, ?_⟩
  rw [Game.removeAgent, hfound]
  dsimp only
  rw [herase]

theorem NamesDiffer.of_names (h : g.NamesDiffer)
    (hnames : g'.agents.map Agent.name = g.agents.map Agent.name) : g'.NamesDiffer := by
  have hlower : ∀ as : List Agent,
      as.map (fun a => Text.lower a.name) = (as.map Agent.name).map Text.lower := by
    intro as
    rw [List.map_map]
    rfl
  rwa [NamesDiffer, hlower, hnames, ← hlower]

/-! ## What a name is good for -/

/-- Every name is answered by the one agent that has it: it is taken for newcomers, finds that
agent, sends it away, and describes it. -/
structure NamesAreKeys (g : Game) : Prop where
  differ : g.NamesDiffer
  taken : ∀ {defaults name seed ids taken},
    (g.addAgent defaults name seed ids).1 = .error (.duplicateName taken) ↔
      taken = name ∧ ∃ a ∈ g.agents, Text.lower a.name = Text.lower name
  found : ∀ {name a}, g.getAgent name = .ok a ↔
    a ∈ g.agents ∧ Text.lower a.name = Text.lower name
  missing : ∀ {name e}, g.getAgent name = .error e ↔
    e = .agentNotFound name ∧ ∀ a ∈ g.agents, Text.lower a.name ≠ Text.lower name
  leaves : ∀ {name a}, g.getAgent name = .ok a → ∃ before after,
    g.agents = before ++ a :: after ∧
      g.removeAgent name = .ok (a, { g with agents := before ++ after }) ∧
      agentNamed? { g with agents := before ++ after } name = none
  described : ∀ a ∈ g.agents, g.describe a.name = .ok (g.descriptionOf a)
  listed : Command.descriptionsOf g = g.agents.map g.descriptionOf

theorem NamesDiffer.namesAreKeys (h : g.NamesDiffer) : g.NamesAreKeys where
  differ := h
  taken := addAgent_eq_duplicateName_iff
  found := getAgent_eq_ok_iff.trans h.agentNamed?_eq_some_iff
  missing := by
    intro name e
    rw [getAgent_eq_error_iff, agentNamed?_eq_none_iff]
  leaves := by
    intro name a ha
    have hfound := getAgent_eq_ok_iff.mp ha
    obtain ⟨before, after, hagents, hremove⟩ := exists_removeAgent_eq hfound
    refine ⟨before, after, hagents, hremove, agentNamed?_eq_none_iff.mpr fun b hb he => ?_⟩
    have hname : Text.lower a.name = Text.lower name := (h.agentNamed?_eq_some_iff.mp hfound).2
    exact h.ne_of_mem hagents b hb (he.trans hname.symm)
  described := fun _ ha => h.describe ha
  listed := h.descriptionsOf

end Discourse.Game
