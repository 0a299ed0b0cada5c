import Discourse.Proofs.Closure.Rounds
import Discourse.Proofs.OrderedSet.Equality
import Discourse.Proofs.OrderedSet.Order

/-!
# Completing an incompatibility

A sentence is ruled out just where it completes an incompatibility: it is a member, and all the
other members are held. It does not matter whether the sentence is held itself, nor what clashes
there are among the others.

* `isCompatible_eq_false_iff`: when a sentence is ruled out.
* `isCompatible_of_fewer`: fewer incompatibilities and commitments rule out less.
* `isCompatible_congr`: only the incompatibilities count that the sentence belongs to.
* `TestsCompletion`, `Prunes`: what is promised of the test, and of pruning by it.
* `ruled_out_by_completion`: all of it.
-/

namespace Discourse

open OrderedSet

variable {incompatibilities incompatibilities' : OrderedSet Incompatibility}
  {commitments commitments' : OrderedSet Sentence} {s : Sentence} {candidates : List Sentence}

/-! ## The test -/

/-- The sentence is a member of the incompatibility, and all its other members are held. -/
def Completes (commitments : OrderedSet Sentence) (s : Sentence) (i : Incompatibility) : Prop :=
  s ∈ i ∧ ∀ x ∈ i, x ≠ s → x ∈ commitments

theorem isCompatible_eq_false_iff :
    isCompatible incompatibilities commitments s = false ↔
      ∃ i ∈ incompatibilities.toList, Completes commitments s i := by
  rw [← Bool.not_eq_true, isCompatible_iff, Admissible]
  push Not
  simp only [Completes, or_iff_not_imp_right, ne_eq]

theorem Completes.mono (h : ∀ x ∈ commitments, x ∈ commitments') {i : Incompatibility}
    (hi : Completes commitments s i) : Completes commitments' s i :=
  ⟨hi.1, fun x hx hne => h x (hi.2 x hx hne)⟩

/-- Equal incompatibilities are completed together. -/
theorem Completes.of_beq {i j : Incompatibility} (hij : (i == j) = true)
    (hi : Completes commitments s i) : Completes commitments s j := by
  rw [beq_iff] at hij
  exact ⟨(hij s).mp hi.1, fun x hx => hi.2 x ((hij x).mpr hx)⟩

theorem exists_completes_iff :
    (∃ i ∈ incompatibilities.toList, Completes commitments s i) ↔
      ∃ i ∈ incompatibilities, Completes commitments s i := by
  constructor
  · rintro ⟨i, hi, hc⟩
    exact ⟨i, mem_of_mem_toList hi, hc⟩
  · rintro ⟨i, hi, hc⟩
    obtain ⟨j, hj, hji⟩ := mem_iff_exists.mp hi
    exact ⟨j, hj, hc.of_beq (BEq.symm hji)⟩

/-- Whatever sits with more sits with less. -/
theorem isCompatible_of_fewer (hi : ∀ i ∈ incompatibilities, i ∈ incompatibilities')
    (hc : ∀ x ∈ commitments, x ∈ commitments')
    (h : isCompatible incompatibilities' commitments' s = true) :
    isCompatible incompatibilities commitments s = true := by
  rw [← Bool.not_eq_false, isCompatible_eq_false_iff, exists_completes_iff] at h ⊢
  rintro ⟨i, hmem, hcompletes⟩
  exact h ⟨i, hi i hmem, hcompletes.mono hc⟩

/-- Only those incompatibilities count that the sentence belongs to, and only the other
sentences that are held. -/
theorem isCompatible_congr (hi : ∀ i, s ∈ i → (i ∈ incompatibilities ↔ i ∈ incompatibilities'))
    (hc : ∀ x, x ≠ s → (x ∈ commitments ↔ x ∈ commitments')) :
    isCompatible incompatibilities commitments s =
      isCompatible incompatibilities' commitments' s := by
  have hcompletes : ∀ i, Completes commitments s i ↔ Completes commitments' s i := by
    intro i
    refine and_congr_right fun _ => forall₂_congr fun x _ => ?_
    exact ⟨fun h hne => (hc x hne).mp (h hne), fun h hne => (hc x hne).mpr (h hne)⟩
  rw [Bool.eq_iff_iff, ← not_iff_not, Bool.not_eq_true, Bool.not_eq_true,
    isCompatible_eq_false_iff, isCompatible_eq_false_iff, exists_completes_iff,
    exists_completes_iff]
  refine exists_congr fun i => ?_
  rw [hcompletes i]
  exact and_congr_left fun h => hi i h.1

/-- What is promised of the test whether a sentence sits with the commitments. -/
structure TestsCompletion (incompatibilities : OrderedSet Incompatibility)
    (commitments : OrderedSet Sentence) (s : Sentence) : Prop where
  /-- It fails just where the sentence is in an incompatibility whose other members are held. -/
  ruledOut : isCompatible incompatibilities commitments s = false ↔
    ∃ i ∈ incompatibilities.toList, s ∈ i ∧ ∀ x ∈ i, x ≠ s → x ∈ commitments
  /-- It does not matter whether the sentence itself is held. -/
  held : isCompatible incompatibilities (commitments.insert s) s =
    isCompatible incompatibilities commitments s
  notHeld : isCompatible incompatibilities (commitments.erase s) s =
    isCompatible incompatibilities commitments s
  /-- What the sentence is not in does not matter, held or not. -/
  outsideIn : ∀ i, s ∉ i → isCompatible (incompatibilities.insert i) commitments s =
    isCompatible incompatibilities commitments s
  outsideOut : ∀ i, s ∉ i → isCompatible (incompatibilities.erase i) commitments s =
    isCompatible incompatibilities commitments s
  /-- Nothing is in the empty incompatibility. -/
  emptyIn : isCompatible (incompatibilities.insert ∅) commitments s =
    isCompatible incompatibilities commitments s
  none : isCompatible ∅ commitments s = true
  /-- Whatever sits with more sits with less. -/
  more : ∀ incompatibilities' commitments', incompatibilities.isSubset incompatibilities' = true →
    commitments.isSubset commitments' = true →
    isCompatible incompatibilities' commitments' s = true →
    isCompatible incompatibilities commitments s = true

theorem isCompatible_insert_of_not_mem {i : Incompatibility} (h : s ∉ i) :
    isCompatible (incompatibilities.insert i) commitments s =
      isCompatible incompatibilities commitments s := by
  refine isCompatible_congr (fun j hj => ?_) fun _ _ => Iff.rfl
  rw [mem_insert, or_iff_left]
  exact fun hij => h ((beq_iff.mp hij s).mpr hj)

theorem isCompatible_erase_of_not_mem {i : Incompatibility} (h : s ∉ i) :
    isCompatible (incompatibilities.erase i) commitments s =
      isCompatible incompatibilities commitments s := by
  refine isCompatible_congr (fun j hj => ?_) fun _ _ => Iff.rfl
  rw [mem_erase, and_iff_left_iff_imp, ← Bool.not_eq_true]
  exact fun _ hji => h ((beq_iff.mp hji s).mp hj)

theorem testsCompletion (incompatibilities : OrderedSet Incompatibility)
    (commitments : OrderedSet Sentence) (s : Sentence) :
    TestsCompletion incompatibilities commitments s where
  ruledOut := isCompatible_eq_false_iff
  held := by
    refine isCompatible_congr (fun _ _ => Iff.rfl) fun x hx => ?_
    rw [mem_insert, beq_iff_eq, or_iff_left (Ne.symm hx)]
  notHeld := by
    refine isCompatible_congr (fun _ _ => Iff.rfl) fun x hx => ?_
    rw [mem_erase, and_iff_left (beq_false_of_ne hx)]
  outsideIn _ h := isCompatible_insert_of_not_mem h
  outsideOut _ h := isCompatible_erase_of_not_mem h
  emptyIn := isCompatible_insert_of_not_mem (not_mem_empty s)
  none := rfl
  more _ _ hi hc := isCompatible_of_fewer (isSubset_iff.mp hi) (isSubset_iff.mp hc)

/-! ## Pruning -/

/-- What is promised of pruning: what passes the test stays, once, at the place where it first
stood. -/
structure Prunes (incompatibilities : OrderedSet Incompatibility)
    (commitments : OrderedSet Sentence) (candidates : List Sentence) : Prop where
  keeps : ∀ s, s ∈ (removeIncompatible incompatibilities commitments candidates).toList ↔
    s ∈ candidates ∧ isCompatible incompatibilities commitments s = true
  once : (removeIncompatible incompatibilities commitments candidates).toList.Nodup
  inOrder : (removeIncompatible incompatibilities commitments candidates).toList =
    candidates.eraseDups.filter (isCompatible incompatibilities commitments)
  again : removeIncompatible incompatibilities commitments
      (removeIncompatible incompatibilities commitments candidates).toList =
    removeIncompatible incompatibilities commitments candidates

theorem removeIncompatible_eq_filter (candidates : List Sentence) :
    removeIncompatible incompatibilities commitments candidates =
      (ofList candidates).filter (isCompatible incompatibilities commitments) :=
  ofList_filter (fun _ _ h => congrArg _ (eq_of_beq h)) candidates

theorem prunes (incompatibilities : OrderedSet Incompatibility)
    (commitments : OrderedSet Sentence) (candidates : List Sentence) :
    Prunes incompatibilities commitments candidates where
  keeps s := by
    rw [← mem_iff_mem_toList, mem_removeIncompatible, isCompatible_iff]
  once := nodup_toList _
  inOrder := by rw [removeIncompatible_eq_filter, toList_filter, toList_ofList]
  again := by
    rw [removeIncompatible_eq_filter, ofList_toList, removeIncompatible_eq_filter]
    exact filter_filter_of_imp fun _ h => h

/-! ## All of it -/

/-- A sentence is ruled out just where it completes an incompatibility, and pruning removes just
what is ruled out. -/
theorem ruled_out_by_completion :
    (∀ (incompatibilities : OrderedSet Incompatibility) (commitments : OrderedSet Sentence)
        (s : Sentence), TestsCompletion incompatibilities commitments s) ∧
      ∀ (incompatibilities : OrderedSet Incompatibility) (commitments : OrderedSet Sentence)
        (candidates : List Sentence), Prunes incompatibilities commitments candidates :=
  ⟨testsCompletion, prunes⟩

/-- Red and blue are held although they clash. Each of them completes the clash, what is small is
outside it, and fewer incompatibilities and commitments rule out less. -/
theorem ruled_out_by_completion_clash :
    let red : Sentence := "red"
    let small : Sentence := "small"
    let clash : Incompatibility := .ofList [red, "blue"]
    let few : OrderedSet Incompatibility := .ofList [clash]
    let many : OrderedSet Incompatibility :=
      .ofList [.ofList ["green", "blue"], .ofList ["blue", red]]
    let held : OrderedSet Sentence := .ofList ["blue", red]
    (small ∉ clash ∧ few.isSubset many = true ∧ isCompatible many held small = true) ∧
      isCompatible few held red = false ∧
      isCompatible (many.insert clash) held small = isCompatible many held small ∧
      isCompatible few ∅ small = true ∧
      (removeIncompatible many held [small, "green", red, small]).toList = [small] := by
  intro red small clash few many held
  obtain ⟨htests, hprunes⟩ := ruled_out_by_completion
  have hout : small ∉ clash := by decide
  have hfew : few.isSubset many = true := by decide
  have hsmall : isCompatible many held small = true := by decide
  have hclash : ∀ x ∈ clash, x ∈ held := isSubset_iff.mp (by decide)
  refine ⟨⟨hout, hfew, hsmall⟩, ?_, ?_, ?_, ?_⟩
  · refine (htests few held red).ruledOut.mpr ⟨clash, List.mem_cons_self, by decide, ?_⟩
    exact fun x hx _ => hclash x hx
  · exact (htests many held small).outsideIn clash hout
  · exact (htests few ∅ small).more many held hfew rfl hsmall
  · rw [(hprunes many held _).inOrder]
    decide

end Discourse
