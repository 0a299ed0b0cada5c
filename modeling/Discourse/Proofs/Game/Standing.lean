import Discourse.Proofs.Attribution.Challenges
import Discourse.Proofs.Attribution.Transport
import Discourse.Proofs.Game.Changes
import Discourse.Proofs.OrderedSet.Selection

/-!
# Challenges that stand

A challenge stands while its target is present. One whose target has left is still on record, but it
is directed at nobody: no score depends on it, and whatever an agent does to itself can be done
before or after such challenges are taken off the record.

* `Agent.facing`: an agent with only those of its challenges whose targets are present.
* `Game.standing`, `Game.withoutDangling`: the same for everybody in a game.
* `Game.scoreAll_standing`: the scores stay.
* `Game.standing_modifyNamed`, `Game.standing_append`, `Game.standing_eraseP`: changing, joining and
  leaving.
-/

namespace Discourse

open OrderedSet

/-! ## One agent -/

namespace Agent

/-- The agent with only those of its challenges whose targets are among those present. -/
def facing (present : List AgentId) (a : Agent) : Agent :=
  a.withChallenges (a.challenges.filter fun c => present.contains c.target)

variable {present present' : List AgentId} {a t : Agent}

@[simp] theorem id_facing (present : List AgentId) (a : Agent) : (a.facing present).id = a.id := rfl

theorem mem_challenges_facing {c : Challenge} :
    c ∈ (a.facing present).challenges.toList ↔ c ∈ a.challenges.toList ∧ c.target ∈ present := by
  rw [facing, challenges_withChallenges, toList_filter, List.mem_filter, List.contains_iff_mem]

/-- When fewer are present, fewer challenges stand. -/
theorem facing_facing (h : ∀ id ∈ present', id ∈ present) (a : Agent) :
    (a.facing present).facing present' = a.facing present' := by
  refine congrArg a.withChallenges (filter_filter_of_imp ?_)
  intro c hc
  rw [List.contains_iff_mem] at hc ⊢
  exact h c.target hc

/-- Nothing changes with somebody present whom the agent has not challenged. -/
theorem facing_append {id : AgentId} (h : ∀ c ∈ a.challenges.toList, c.target ≠ id) :
    a.facing (present ++ [id]) = a.facing present := by
  refine congrArg a.withChallenges (filter_congr ?_)
  intro c hc
  have hne := h c hc
  rw [Bool.eq_iff_iff, List.contains_iff_mem, List.contains_iff_mem, List.mem_append,
    List.mem_singleton]
  exact or_iff_left hne

theorem facing_of_empty (h : a.challenges = ∅) : a.facing present = a := by
  obtain ⟨id, name, intelligence, avowed, rules, challenges⟩ := a
  dsimp only at h
  subst h
  rfl

theorem challengedOf_facing (ht : t.id ∈ present) :
    (a.facing present).challengedOf (t.facing present) = a.challengedOf t := by
  have hchallenges : (a.facing present).challenges.toList.filter (·.target == t.id) =
      a.challenges.toList.filter (·.target == t.id) := by
    rw [facing, challenges_withChallenges, toList_filter, List.filter_filter]
    refine List.filter_congr fun c _ => ?_
    cases hc : c.target == t.id with
    | false => rfl
    | true =>
      rw [beq_iff_eq] at hc
      rwa [Bool.true_and, hc, List.contains_iff_mem]
  rw [challengedOf, id_facing, hchallenges]
  rfl

/-! ## What agents do to themselves -/

theorem facing_disputing {c : Challenge} (hc : c.target ∈ present) (a : Agent) :
    (a.disputing c).facing present = (a.facing present).disputing c := by
  have hstands : present.contains c.target = true := List.contains_iff_mem.mpr hc
  have hrespects : ∀ c d : Challenge, (c == d) = true →
      present.contains c.target = present.contains d.target :=
    fun _ _ h => congrArg (fun c => present.contains c.target) (eq_of_beq h)
  exact congrArg a.withChallenges (filter_insert hrespects a.challenges hstands)

theorem facing_withdraw (a target : Agent) (s : Sentence) :
    (a.withdraw target s).facing present = (a.facing present).withdraw target s :=
  congrArg a.withChallenges (filter_comm a.challenges _ _)

theorem facing_withdrawDangling (a : Agent) (s : Sentence) :
    (a.withdrawDangling present s).facing present = a.facing present := by
  refine congrArg a.withChallenges (filter_filter_of_imp ?_)
  intro c hc
  rw [isDangling, hc, Bool.not_true, Bool.and_false]
  rfl

/-- Where every challenge stands, none is dangling. -/
theorem danglingCount_facing (a : Agent) (s : Sentence) :
    (a.facing present).danglingCount present s = 0 := by
  rw [danglingCount, size, List.length_eq_zero_iff, toList_filter, List.filter_eq_nil_iff]
  intro c hc
  rw [isDangling, List.contains_iff_mem.mpr (mem_challenges_facing.mp hc).2]
  simp

end Agent

/-! ## A game -/

namespace Game

variable {g : Game} {name : Text} {f : Agent → Agent}

/-- Those present, with only the challenges that stand. -/
def standing (g : Game) : List Agent := g.agents.map (Agent.facing g.present)

/-- The game with every challenge taken off the record whose target is not present. -/
def withoutDangling (g : Game) : Game := { g with agents := g.standing }

/-- What scores are made from stays. -/
theorem keepsScores_facing (g : Game) : KeepsScores g.agents (Agent.facing g.present) where
  name _ := rfl
  intelligence _ := rfl
  avowed _ := rfl
  rules _ := rfl
  challengedOf _ _ _ ht := Agent.challengedOf_facing (List.mem_map_of_mem ht)

theorem scoreAll_standing (g : Game) : scoreAll g.standing = scoreAll g.agents :=
  g.keepsScores_facing.scoreAll

theorem map_id_facing (present : List AgentId) (as : List Agent) :
    (as.map (Agent.facing present)).map Agent.id = as.map Agent.id := by
  rw [List.map_map]
  rfl

theorem present_standing (g : Game) (es : List Exchange) : present ⟨g.standing, es⟩ = g.present :=
  map_id_facing g.present g.agents

theorem standing_standing (g : Game) (es : List Exchange) :
    standing ⟨g.standing, es⟩ = g.standing := by
  rw [standing, present_standing]
  dsimp only
  rw [standing, List.map_map]
  exact List.map_congr_left fun a _ => Agent.facing_facing (fun _ hid => hid) a

theorem agentNamed?_standing (g : Game) (es : List Exchange) (name : Text) :
    agentNamed? ⟨g.standing, es⟩ name = (g.agentNamed? name).map (Agent.facing g.present) :=
  List.find?_map

/-! ## Changing, joining and leaving -/

theorem present_modifyNamed (hid : ∀ a, (f a).id = a.id) (g : Game) (name : Text) :
    (g.modifyNamed name f).present = g.present :=
  map_modifyFirst_of_eq hid

/-- A change that can be made before or after the record is cleared. -/
theorem standing_modifyNamed (hid : ∀ a, (f a).id = a.id)
    (hf : ∀ a, (f a).facing g.present = f (a.facing g.present)) (name : Text) :
    (g.modifyNamed name f).standing = modifyFirst (hasName name) f g.standing := by
  have hname : ∀ a, hasName name (a.facing g.present) = hasName name a := fun _ => rfl
  rw [standing, present_modifyNamed hid]
  exact map_modifyFirst hname hf

/-- A change to challenges that do not stand. -/
theorem standing_modifyNamed_of_facing (hid : ∀ a, (f a).id = a.id)
    (hf : ∀ a, (f a).facing g.present = a.facing g.present) (name : Text) :
    (g.modifyNamed name f).standing = g.standing := by
  rw [standing, present_modifyNamed hid]
  exact map_modifyFirst_of_eq hf

/-- Somebody joins whom nobody has challenged. -/
theorem standing_append {new : Agent} {es : List Exchange} (hnew : new.challenges = ∅)
    (hfresh : ∀ a ∈ g.agents, ∀ c ∈ a.challenges.toList, c.target ≠ new.id) :
    standing ⟨g.agents ++ [new], es⟩ = g.standing ++ [new] := by
  have hpresent : present ⟨g.agents ++ [new], es⟩ = g.present ++ [new.id] := List.map_append
  rw [standing, hpresent, List.map_append, List.map_singleton, Agent.facing_of_empty hnew]
  refine congrArg (· ++ [new]) (List.map_congr_left fun a ha => ?_)
  exact Agent.facing_append (hfresh a ha)

/-- Somebody leaves, and the challenges to it stand no longer. -/
theorem standing_eraseP (g : Game) (name : Text) (es es' : List Exchange) :
    standing ⟨g.standing.eraseP (hasName name), es⟩ =
      standing ⟨g.agents.eraseP (hasName name), es'⟩ := by
  have herase : g.standing.eraseP (hasName name) =
      (g.agents.eraseP (hasName name)).map (Agent.facing g.present) := List.eraseP_map
  have hfewer : ∀ id ∈ (g.agents.eraseP (hasName name)).map Agent.id, id ∈ g.present := by
    intro id hid
    obtain ⟨a, ha, rfl⟩ := List.mem_map.mp hid
    exact List.mem_map_of_mem (List.mem_of_mem_eraseP ha)
  have hpresent : present ⟨(g.agents.eraseP (hasName name)).map (Agent.facing g.present), es⟩ =
      (g.agents.eraseP (hasName name)).map Agent.id := map_id_facing _ _
  rw [herase, standing, hpresent, List.map_map]
  exact List.map_congr_left fun a _ => Agent.facing_facing hfewer a

end Game

end Discourse
