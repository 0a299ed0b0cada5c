import Discourse.Proofs.Attribution.Entitlements

/-!
# What challenges have a say in

Challenges bear on what is attributed through the pool alone, and entitlements can only shrink with
the pool.

* `Agent.withChallenges`, `Agent.disputing`: an agent with other challenges, or one more, on record.
* `entitlements_of_pool_subset`: from a smaller pool follows nothing new.
-/

namespace Discourse

open OrderedSet

/-- The agent with other challenges on record. -/
def Agent.withChallenges (a : Agent) (challenges : OrderedSet Challenge) : Agent :=
  { a with challenges }

@[simp] theorem Agent.challenges_withChallenges (a : Agent) (cs : OrderedSet Challenge) :
    (a.withChallenges cs).challenges = cs := rfl

/-- The agent with one more challenge on record. -/
def Agent.disputing (c : Challenge) (a : Agent) : Agent :=
  a.withChallenges (a.challenges.insert c)

/-- What the target has avowed can be challenged. -/
theorem Agent.challenge_eq_some (a : Agent) {target : Agent} {s : Sentence}
    (hs : target.avowed.contains s = true) :
    a.challenge target s = some (a.disputing ⟨target.id, s⟩) :=
  if_pos hs

variable {population population' : List Agent} {keeper other : Agent}

/-- From a smaller pool follows nothing new, whatever the two have challenged. -/
theorem entitlements_of_pool_subset (hpool : ∀ x ∈ pool population', x ∈ pool population)
    (cs cs' : OrderedSet Challenge) {s : Sentence}
    (hs : s ∈ entitlements population' (keeper.withChallenges cs) (other.withChallenges cs')) :
    s ∈ entitlements population keeper other := by
  let g' := entitlementGrounds population' (keeper.withChallenges cs) (other.withChallenges cs')
  let g := entitlementGrounds population keeper other
  have hstart : ∀ x, g'.start x → g.start x := fun x hx => mem_pool.mp (hpool x (mem_pool.mpr hx))
  have hlicensed : ∀ i, g'.licensed i → g.licensed i := fun _ hi => hi
  have hadmissible : ∀ x, g'.admissible x → g.admissible x := fun _ ha => ha
  have hderives : g'.Derives other.intelligence s := mem_entitlements_iff_derives.mp hs
  exact mem_entitlements_iff_derives.mpr (hderives.weaken hstart hlicensed hadmissible)

end Discourse
