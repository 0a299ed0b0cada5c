import Discourse.Proofs.Attribution.Challenges
import Discourse.Proofs.Game.Newcomers
import Discourse.Proofs.Text.Order
import Mathlib.Data.List.Forall2
import Mathlib.Data.List.Nodup
import Mathlib.Data.List.ProdSigma

/-!
# Scores and the order of joining

The pool is gathered in the order in which the agents joined, and so entitlements are listed in an
order that depends on it. Nothing else does: the same agents in another order have the same scores,
in the same order, and each score lists the same entitlements.

* `byName_of_perm`, `map_name_byName`: the order of names is one for all orders of joining.
* `Score.Alike`, `score_alike`: the score of a pair.
* `map_pair_scoreAll`: the pairs that are scored.
* `scoreAll_of_perm`: all scores.
-/

namespace Discourse

open OrderedSet

variable {population population' : List Agent}

/-! ## The order of names -/

theorem pairwise_byName (population : List Agent) :
    (byName population).Pairwise fun a b => a.name.numbers ≤ b.name.numbers := by
  have hsorted : (byName population).Pairwise fun a b => Text.isAtMost a.name b.name = true := by
    apply List.pairwise_mergeSort
    · intro a b c hab hbc
      rw [Text.isAtMost_iff] at hab hbc ⊢
      exact le_trans hab hbc
    · intro a b
      rw [Bool.or_eq_true, Text.isAtMost_iff, Text.isAtMost_iff]
      exact le_total _ _
  exact hsorted.imp Text.isAtMost_iff.mp

theorem byName_perm (population : List Agent) : (byName population).Perm population :=
  List.mergeSort_perm population _

/-- Agents whose names differ have one order of names. -/
theorem byName_of_perm (hperm : population.Perm population')
    (hnames : (population.map Agent.name).Nodup) : byName population = byName population' := by
  have hsame : (byName population).Perm (byName population') :=
    (byName_perm population).trans (hperm.trans (byName_perm population').symm)
  refine List.Perm.eq_of_pairwise ?_ (pairwise_byName population) (pairwise_byName population')
    hsame
  intro a b ha hb hab hba
  have hb : b ∈ byName population := hsame.mem_iff.mpr hb
  exact List.inj_on_of_nodup_map hnames ((byName_perm population).mem_iff.mp ha)
    ((byName_perm population).mem_iff.mp hb) (Text.numbers_injective (le_antisymm hab hba))

/-- The names come in their order, each once. -/
theorem pairwise_map_name_byName (hnames : (population.map Agent.name).Nodup) :
    ((byName population).map Agent.name).Pairwise fun m n => m.numbers < n.numbers := by
  have hsorted : ((byName population).map Agent.name).Pairwise fun m n => m.numbers ≤ n.numbers :=
    List.pairwise_map.mpr (pairwise_byName population)
  have hnodup : ((byName population).map Agent.name).Nodup :=
    ((byName_perm population).map Agent.name).nodup_iff.mpr hnames
  refine hsorted.imp₂ ?_ hnodup
  intro m n hle hne
  exact lt_of_le_of_ne hle fun he => hne (Text.numbers_injective he)

/-! ## The score of a pair -/

/-- The scores differ in nothing but the order in which entitlements are listed. -/
structure Score.Alike (s t : Score) : Prop where
  keeper : s.keeper = t.keeper
  other : s.other = t.other
  commitments : s.commitments = t.commitments
  incompatibles : s.incompatibles = t.incompatibles
  entitlements : s.entitlements.Perm t.entitlements

/-- What everybody has avowed and challenged is the same, whoever came first. -/
theorem entitlementGrounds_of_perm (hperm : population.Perm population') (keeper other : Agent) :
    entitlementGrounds population keeper other = entitlementGrounds population' keeper other := by
  simp only [entitlementGrounds, hperm.mem_iff]

theorem entitlements_perm (hperm : population.Perm population') (keeper other : Agent) :
    (entitlements population keeper other).toList.Perm
      (entitlements population' keeper other).toList := by
  refine (List.perm_ext_iff_of_nodup (nodup_toList _) (nodup_toList _)).mpr fun s => ?_
  rw [← mem_iff_mem_toList, ← mem_iff_mem_toList, mem_entitlements_iff_derives,
    mem_entitlements_iff_derives, entitlementGrounds_of_perm hperm]

theorem score_alike (hperm : population.Perm population') (keeper other : Agent) :
    (score population keeper other).Alike (score population' keeper other) :=
  ⟨rfl, rfl, rfl, rfl, entitlements_perm hperm keeper other⟩

/-! ## All scores -/

/-- Who keeps a score, and on whom. -/
def Score.pair (s : Score) : Text × Text := (s.keeper, s.other)

/-- Everybody is scored by everybody, in the order of names, the keeper's first. -/
theorem map_pair_scoreAll (population : List Agent) :
    (scoreAll population).map Score.pair =
      (byName population).map Agent.name ×ˢ (byName population).map Agent.name := by
  simp only [scoreAll, List.map_flatMap, List.map_map, SProd.sprod, List.product, List.flatMap_map]
  rfl

theorem forall₂_alike_scoreAll (hperm : population.Perm population')
    (hnames : (population.map Agent.name).Nodup) :
    List.Forall₂ Score.Alike (scoreAll population) (scoreAll population') := by
  have hrow : ∀ keeper (others : List Agent),
      List.Forall₂ Score.Alike (others.map fun other => score population keeper other)
        (others.map fun other => score population' keeper other) := by
    intro keeper others
    rw [List.forall₂_map_left_iff, List.forall₂_map_right_iff, List.forall₂_same]
    exact fun other _ => score_alike hperm keeper other
  rw [scoreAll, scoreAll, ← byName_of_perm hperm hnames]
  generalize byName population = others
  refine List.rel_flatMap (R := Eq) (List.forall₂_same.mpr fun _ _ => rfl) ?_
  rintro keeper _ rfl
  exact hrow keeper others

/-- The same agents, whatever the order in which they joined: each ordered pair of them is scored
once, those who keep themselves included, in the order of the names, the keeper's first; and pair by
pair the scores differ in nothing but the order in which entitlements are listed. -/
theorem scoreAll_of_perm (hperm : population.Perm population')
    (hnames : (population.map Agent.name).Nodup) :
    (∃ names : List Text, names.Perm (population.map Agent.name) ∧
      names.Pairwise (fun m n => m.numbers < n.numbers) ∧
      (scoreAll population).map Score.pair = names ×ˢ names ∧
      (scoreAll population').map Score.pair = names ×ˢ names) ∧
    List.Forall₂ Score.Alike (scoreAll population) (scoreAll population') := by
  refine ⟨⟨(byName population).map Agent.name, (byName_perm population).map Agent.name,
    pairwise_map_name_byName hnames, map_pair_scoreAll population, ?_⟩,
    forall₂_alike_scoreAll hperm hnames⟩
  rw [byName_of_perm hperm hnames]
  exact map_pair_scoreAll population'

/-- Zoe, who has avowed one sentence. -/
def zoe : Agent := (Agent.newcomer {} "Zoe" ⟨1⟩).assert "A is small"

/-- Ian, who has avowed another one, and what Zoe has avowed. -/
def ian : Agent := ((Agent.newcomer {} "Ian" ⟨2⟩).assert "A is red").assert "A is small"

/-- Eve, who challenges Ian. -/
def eve : Agent := (Agent.newcomer {} "Eve" ⟨3⟩).disputing ⟨⟨2⟩, "A is small"⟩

/-- When Ian comes before Zoe the entitlements are listed in another order, but they are the
same. -/
theorem scoreAll_of_perm_zoeAndIan :
    ([zoe, ian, eve].map Agent.name).Nodup ∧
      (entitlements [zoe, ian, eve] zoe zoe).toList ≠
        (entitlements [eve, ian, zoe] zoe zoe).toList ∧
      List.Forall₂ Score.Alike (scoreAll [zoe, ian, eve]) (scoreAll [eve, ian, zoe]) := by
  have hnames : ([zoe, ian, eve].map Agent.name).Nodup := by decide +kernel
  have hperm : [zoe, ian, eve].Perm [eve, ian, zoe] := (List.reverse_perm [zoe, ian, eve]).symm
  obtain ⟨-, halike⟩ := scoreAll_of_perm hperm hnames
  exact ⟨hnames, by decide +kernel, halike⟩

end Discourse
