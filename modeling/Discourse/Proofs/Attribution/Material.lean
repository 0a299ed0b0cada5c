import Discourse.Proofs.Attribution.Pool
import Discourse.Proofs.Closure.Repetition
import Discourse.Proofs.Material

/-!
# What scores are made of

Whatever is attributed has been avowed by somebody or is the conclusion of somebody's inference, so
the sentences of a score are of the material of the agents.

* `Score.MadeOf`: the names and sentences of a score are of the material.
* `Score.madeOf_score`, `Score.madeOf_scoreAll`: scores on agents of the material.
-/

namespace Discourse

variable {m : Material}

/-- The names and sentences of a score are of the material. -/
structure Score.MadeOf (m : Material) (s : Score) : Prop where
  keeper : m.text s.keeper
  other : m.text s.other
  commitments : ∀ t ∈ s.commitments, m.text t
  entitlements : ∀ t ∈ s.entitlements, m.text t
  incompatibles : ∀ ts ∈ s.incompatibles, ∀ t ∈ ts, m.text t

/-! ## One round -/

theorem OrderedSet.All.union {α : Type} [BEq α] {p : α → Prop} {s t : OrderedSet α} (hs : s.All p)
    (ht : t.All p) : (s ∪ t).All p := hs.insertAll ht

theorem all_consequences {p : Sentence → Prop} {rules : OrderedSet Inference}
    {basis : OrderedSet Sentence} (hr : ∀ i ∈ rules.toList, p i.conclusion) (hb : basis.All p) :
    (consequences rules basis).All p := by
  refine hb.union (OrderedSet.all_ofList ?_)
  intro s hs
  obtain ⟨i, hi, rfl⟩ := List.mem_map.mp hs
  exact hr i (List.mem_filter.mp hi).1

theorem all_removeIncompatible {p : Sentence → Prop}
    {incompatibilities : OrderedSet Incompatibility} {coms : OrderedSet Sentence}
    {candidates : List Sentence} (h : ∀ s ∈ candidates, p s) :
    (removeIncompatible incompatibilities coms candidates).All p :=
  OrderedSet.all_ofList fun s hs => h s (List.mem_filter.mp hs).1

theorem all_expand {rules : RuleBook} {coms ents : OrderedSet Sentence} (hr : rules.MadeOf m)
    (h : ents.All m.text) : (expand rules coms ents).All m.text := by
  have hcommittive : ∀ i ∈ rules.committive.toList, m.text i.conclusion :=
    fun i hi => (hr.committive i hi).conclusion
  have hpermissive : ∀ i ∈ rules.permissive.toList, m.text i.conclusion :=
    fun i hi => (hr.permissive i hi).conclusion
  have hboth : (ents ∩ coms).All m.text := h.filter
  exact (all_removeIncompatible (all_consequences hcommittive h)).union
    (all_removeIncompatible (all_consequences hpermissive hboth))

/-! ## What is attributed -/

variable {keeper other : Agent} {population : List Agent}

theorem all_commitments (hk : keeper.MadeOf m) (ho : other.MadeOf m) :
    (commitments keeper other).All m.text := by
  have hr : ∀ i ∈ keeper.rules.committive.toList, m.text i.conclusion :=
    fun i hi => (hk.rules.committive i hi).conclusion
  have hstep : ∀ s : OrderedSet Sentence, s.All m.text →
      (consequences keeper.rules.committive s).All m.text := fun _ => all_consequences hr
  exact fixedPoint_induction hstep ho.avowed _

theorem all_pool (hp : ∀ a ∈ population, a.MadeOf m) : (pool population).All m.text := by
  intro s hs
  obtain ⟨a, ha, hmem, -⟩ := mem_pool.mp (OrderedSet.mem_iff_mem_toList.mpr hs)
  exact (hp a ha).avowed s (OrderedSet.mem_iff_mem_toList.mp hmem)

theorem all_entitlements (hp : ∀ a ∈ population, a.MadeOf m) (hk : keeper.MadeOf m) :
    (entitlements population keeper other).All m.text := by
  have hstep : ∀ s : OrderedSet Sentence, s.All m.text →
      (expand keeper.rules (commitments keeper other) s).All m.text := fun _ => all_expand hk.rules
  exact fixedPoint_induction hstep (all_removeIncompatible (all_pool hp)) _

/-! ## Scores -/

theorem Score.madeOf_score (hp : ∀ a ∈ population, a.MadeOf m) (hk : keeper.MadeOf m)
    (ho : other.MadeOf m) : (score population keeper other).MadeOf m where
  keeper := hk.name
  other := ho.name
  commitments := all_commitments hk ho
  entitlements := all_entitlements hp hk
  incompatibles := by
    intro ts hts
    obtain ⟨i, hi, rfl⟩ := List.mem_map.mp hts
    exact hk.rules.incompatibilities i (List.mem_filter.mp hi).1

theorem Score.madeOf_scoreAll (hp : ∀ a ∈ population, a.MadeOf m) :
    ∀ s ∈ scoreAll population, s.MadeOf m := by
  have hby : ∀ a ∈ byName population, a.MadeOf m := fun a ha => hp a (List.mem_mergeSort.mp ha)
  intro s hs
  obtain ⟨k, hk, hs⟩ := List.mem_flatMap.mp hs
  obtain ⟨o, ho, rfl⟩ := List.mem_map.mp hs
  exact Score.madeOf_score hp (hby k hk) (hby o ho)

end Discourse
