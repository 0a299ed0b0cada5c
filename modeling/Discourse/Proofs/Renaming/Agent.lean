import Discourse.Proofs.Attribution.Transport
import Discourse.Proofs.OrderedSet.Mapping
import Mathlib.Logic.Equiv.Basic

/-!
# Renaming identifiers

Identifiers only serve to find the targets of challenges. So when all of them are replaced one for
one, agents do the same as before, and everybody keeps the same score on everybody.

* `Agent.rename`: an agent under other identifiers.
* `Agent.challenge_rename`, `Agent.withdraw_rename`, …: what agents do to themselves.
* `score_rename`, `scoreAll_rename`: the scores stay.
-/

namespace Discourse

open Equiv (Perm)

variable (σ : Perm AgentId)

/-- The challenge with its target under another identifier. -/
def Challenge.rename (c : Challenge) : Challenge := { c with target := σ c.target }

theorem Challenge.rename_injective : Function.Injective (Challenge.rename σ) := by
  rintro ⟨t, s⟩ ⟨t', s'⟩ h
  have ht : t = t' := σ.injective (congrArg target h)
  have hs : s = s' := congrArg sentence h
  rw [ht, hs]

namespace Agent

/-- The agent with its identifier and those of its targets replaced. -/
def rename (a : Agent) : Agent :=
  { a with
    id := σ a.id
    challenges := a.challenges.map (Challenge.rename σ) (Challenge.rename_injective σ) }

@[simp] theorem id_rename (a : Agent) : (a.rename σ).id = σ a.id := rfl
@[simp] theorem name_rename (a : Agent) : (a.rename σ).name = a.name := rfl
@[simp] theorem avowed_rename (a : Agent) : (a.rename σ).avowed = a.avowed := rfl
@[simp] theorem challenges_rename (a : Agent) : (a.rename σ).challenges =
    a.challenges.map (Challenge.rename σ) (Challenge.rename_injective σ) := rfl

/-! ## What agents do to themselves -/

theorem challenge_rename (a target : Agent) (s : Sentence) :
    (a.rename σ).challenge (target.rename σ) s = (a.challenge target s).map (rename σ) := by
  unfold challenge
  rw [avowed_rename]
  split
  · have hinsert := OrderedSet.map_insert (Challenge.rename_injective σ) a.challenges ⟨target.id, s⟩
    exact congrArg (fun cs => some { a.rename σ with challenges := cs }) hinsert.symm
  · rfl

theorem withdraw_rename (a target : Agent) (s : Sentence) :
    (a.withdraw target s).rename σ = (a.rename σ).withdraw (target.rename σ) s := by
  have herase := OrderedSet.map_erase (Challenge.rename_injective σ) a.challenges ⟨target.id, s⟩
  exact congrArg (fun cs => { a.rename σ with challenges := cs }) herase

theorem isDangling_rename (present : List AgentId) (s : Sentence) (c : Challenge) :
    isDangling (present.map σ) s (c.rename σ) = isDangling present s c := by
  have hcontains : (present.map σ).contains (σ c.target) = present.contains c.target := by
    rw [Bool.eq_iff_iff, List.contains_iff_mem, List.contains_iff_mem]
    constructor
    · intro h
      obtain ⟨id, hid, he⟩ := List.mem_map.mp h
      rwa [← σ.injective he]
    · exact List.mem_map_of_mem
  exact congrArg (c.sentence == s && !·) hcontains

theorem danglingCount_rename (a : Agent) (present : List AgentId) (s : Sentence) :
    (a.rename σ).danglingCount (present.map σ) s = a.danglingCount present s := by
  rw [danglingCount, danglingCount, challenges_rename,
    ← OrderedSet.map_filter _ _ (isDangling_rename σ present s), OrderedSet.size_map]

theorem withdrawDangling_rename (a : Agent) (present : List AgentId) (s : Sentence) :
    (a.withdrawDangling present s).rename σ =
      (a.rename σ).withdrawDangling (present.map σ) s := by
  have hp : ∀ c, (!isDangling (present.map σ) s (c.rename σ)) = !isDangling present s c :=
    fun c => congrArg (!·) (isDangling_rename σ present s c)
  have hfilter := OrderedSet.map_filter (Challenge.rename_injective σ) a.challenges
    (q := fun c => !isDangling (present.map σ) s c) hp
  exact congrArg (fun cs => { a.rename σ with challenges := cs }) hfilter

/-! ## Challenges on record -/

theorem challengedOf_rename (a target : Agent) :
    (a.rename σ).challengedOf (target.rename σ) = a.challengedOf target := by
  have hp : ((fun c : Challenge => c.target == σ target.id) ∘ Challenge.rename σ) =
      fun c => c.target == target.id := by
    funext c
    exact OrderedSet.beq_map σ.injective c.target target.id
  rw [challengedOf, challenges_rename, OrderedSet.toList_map, id_rename, List.filter_map, hp,
    List.map_map]
  rfl

end Agent

/-! ## Scores -/

/-- Whatever scores are made from stays under other identifiers. -/
theorem keepsScores_rename (population : List Agent) : KeepsScores population (Agent.rename σ) where
  name _ := rfl
  intelligence _ := rfl
  avowed _ := rfl
  rules _ := rfl
  challengedOf a _ t _ := a.challengedOf_rename σ t

theorem score_rename (population : List Agent) (keeper other : Agent) :
    score (population.map (Agent.rename σ)) (keeper.rename σ) (other.rename σ) =
      score population keeper other :=
  (keepsScores_rename σ population).score keeper other

theorem scoreAll_rename (population : List Agent) :
    scoreAll (population.map (Agent.rename σ)) = scoreAll population :=
  (keepsScores_rename σ population).scoreAll

end Discourse
