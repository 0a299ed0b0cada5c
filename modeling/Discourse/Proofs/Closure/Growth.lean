import Discourse.Proofs.Closure.Repetition
import Discourse.Proofs.Closure.Rounds
import Discourse.Proofs.OrderedSet.Order

/-!
# Rounds append

A round leaves what is known where it is and puts what it finds at the end. For commitments this is
so of any set; for entitlements of a set that is pruned, since a round prunes. So the list that a
larger budget gives begins with the one that a smaller budget gives, although the early stop
compares sets without their order.

* `OrderedSet.prefix_insertAll`, `OrderedSet.prefix_union`: newcomers join at the end.
* `prefix_consequences`, `prefix_expand`: one round.
* `prefix_settle`, `settle_prefix_settle`: repeated rounds.
-/

namespace Discourse

open OrderedSet

universe u

/-! ## Joining -/

namespace OrderedSet

variable {α : Type u} [BEq α]

theorem prefix_insertAll (s : OrderedSet α) (items : List α) :
    s.toList <+: (s.insertAll items).toList := by
  rw [toList_insertAll]
  exact List.prefix_append _ _

theorem prefix_union (s t : OrderedSet α) : s.toList <+: (s ∪ t).toList :=
  prefix_insertAll s t.toList

end OrderedSet

/-! ## One round -/

theorem prefix_consequences (rules : OrderedSet Inference) (basis : OrderedSet Sentence) :
    basis.toList <+: (consequences rules basis).toList := prefix_union _ _

section Pruning

variable {incompatibilities : OrderedSet Incompatibility} {held known : OrderedSet Sentence}

instance (incompatibilities : OrderedSet Incompatibility) (held : OrderedSet Sentence) :
    DecidablePred (Admissible incompatibilities held) :=
  fun _ => decidable_of_iff _ isCompatible_iff

/-- Pruning keeps the order of the candidates. -/
theorem toList_removeIncompatible {candidates : List Sentence} (h : candidates.Nodup) :
    (removeIncompatible incompatibilities held candidates).toList =
      candidates.filter (Admissible incompatibilities held ·) := by
  have hpruned : candidates.filter (isCompatible incompatibilities held) =
      candidates.filter (Admissible incompatibilities held ·) :=
    List.filter_congr fun s _ =>
      Bool.eq_iff_iff.mpr (isCompatible_iff.trans decide_eq_true_iff.symm)
  rw [removeIncompatible, hpruned]
  exact toList_ofList_of_distinct ((h.filter _).imp beq_false_of_ne)

/-- Where nothing is left to prune a round of entitlement puts what it finds at the end. -/
theorem prefix_expand {rules : RuleBook}
    (h : ∀ s ∈ known, Admissible rules.incompatibilities held s) :
    known.toList <+: (expand rules held known).toList := by
  have hkept : known.toList.filter (Admissible rules.incompatibilities held ·) = known.toList :=
    List.filter_eq_self.mpr fun s hs => decide_eq_true (h s (mem_of_mem_toList hs))
  have hcommittive : known.toList <+:
      (compatibleConsequences rules.committive rules.incompatibilities held known).toList := by
    rw [compatibleConsequences, toList_removeIncompatible (nodup_toList _)]
    conv_lhs => rw [← hkept]
    exact (prefix_consequences rules.committive known).filter _
  exact hcommittive.trans (prefix_union _ _)

theorem admissible_of_mem_expand {rules : RuleBook} {s : Sentence}
    (h : s ∈ expand rules held known) : Admissible rules.incompatibilities held s :=
  (mem_expand.mp h).2

end Pruning

/-! ## Repeated rounds -/

section Repeated

variable {α : Type u} [BEq α] {p : OrderedSet α → Prop} {step : OrderedSet α → OrderedSet α}

theorem prefix_settle (hp : ∀ s, p s → p (step s))
    (hstep : ∀ s, p s → s.toList <+: (step s).toList) (n : Nat) {s : OrderedSet α} (hs : p s) :
    s.toList <+: (settle step n s).toList := by
  induction n generalizing s with
  | zero => exact List.prefix_rfl
  | succ n ih =>
    unfold settle
    split
    · exact List.prefix_rfl
    · exact (hstep s hs).trans (ih (hp s hs))

/-- The list of a larger budget begins with the list of a smaller one. -/
theorem settle_prefix_settle (hp : ∀ s, p s → p (step s))
    (hstep : ∀ s, p s → s.toList <+: (step s).toList) {m n : Nat} (h : m ≤ n) {s : OrderedSet α}
    (hs : p s) : (settle step m s).toList <+: (settle step n s).toList := by
  induction m generalizing n s with
  | zero => exact prefix_settle hp hstep n hs
  | succ m ih =>
    obtain ⟨n, rfl⟩ :=
      Nat.exists_eq_add_one_of_ne_zero (Nat.ne_of_gt (Nat.lt_of_lt_of_le m.succ_pos h))
    unfold settle
    split
    · exact List.prefix_rfl
    · exact ih (Nat.le_of_succ_le_succ h) (hp s hs)

end Repeated

end Discourse
