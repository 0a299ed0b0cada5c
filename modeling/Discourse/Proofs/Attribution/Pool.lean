import Discourse.Attribution
import Discourse.Proofs.OrderedSet.Membership

/-!
# The pool of unchallenged assertions

Who is in the sets that are gathered over a population: the sentences on which an agent has been
challenged, what is left of its assertions, and the pool of all that is left.

* `mem_challengedSentences`, `mem_unchallengedAssertions`, `mem_pool`: the members, said through
  the challenges on record.
-/

namespace Discourse

open OrderedSet

namespace OrderedSet

universe u

/-- The members of what is gathered from several lists. -/
theorem mem_foldl_insertAll {α β : Type u} [BEq α] [EquivBEq α] {f : β → List α} {sources : List β}
    {s : OrderedSet α} {a : α} :
    a ∈ sources.foldl (fun found b => found.insertAll (f b)) s ↔
      a ∈ s ∨ ∃ b ∈ sources, ∃ x ∈ f b, (x == a) = true := by
  induction sources generalizing s with
  | nil => simp
  | cons b sources ih => simp [ih, or_assoc]

end OrderedSet

theorem Agent.mem_challengedOf {a target : Agent} {s : Sentence} :
    s ∈ a.challengedOf target ↔ (⟨target.id, s⟩ : Challenge) ∈ a.challenges := by
  rw [mem_iff_mem_toList, challengedOf, List.mem_map]
  constructor
  · rintro ⟨⟨t, x⟩, hc, rfl⟩
    obtain ⟨hc, ht⟩ := List.mem_filter.mp hc
    rw [beq_iff_eq] at ht
    exact ht ▸ hc
  · intro h
    exact ⟨⟨target.id, s⟩, List.mem_filter.mpr ⟨h, beq_self_eq_true _⟩, rfl⟩

theorem mem_challengedSentences {population : List Agent} {target : Agent} {s : Sentence} :
    s ∈ challengedSentences population target ↔
      ∃ b ∈ population, (⟨target.id, s⟩ : Challenge) ∈ b.challenges := by
  rw [challengedSentences, mem_foldl_insertAll]
  simp [Agent.mem_challengedOf]

theorem mem_unchallengedAssertions {population : List Agent} {target : Agent} {s : Sentence} :
    s ∈ unchallengedAssertions population target ↔
      s ∈ target.avowed ∧ ∀ b ∈ population, (⟨target.id, s⟩ : Challenge) ∉ b.challenges := by
  rw [unchallengedAssertions, mem_sdiff, mem_challengedSentences]
  simp only [not_exists, not_and]

theorem mem_pool {population : List Agent} {s : Sentence} :
    s ∈ pool population ↔ ∃ a ∈ population, s ∈ a.avowed ∧
      ∀ b ∈ population, (⟨a.id, s⟩ : Challenge) ∉ b.challenges := by
  simp only [pool, union_def]
  rw [mem_foldl_insertAll]
  simp only [not_mem_empty, false_or, ← mem_iff_exists, mem_unchallengedAssertions]

end Discourse
