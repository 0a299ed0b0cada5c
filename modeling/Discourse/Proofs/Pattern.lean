import Discourse.Pattern
import Mathlib.Data.List.Forall2

/-!
# What a pattern keeps

Whichever way a line is read, a pattern keeps the same number of parts, and each of them is read by
the pattern inside its group.

* `Pattern.kept`: the patterns inside the groups, from left to right.
* `Pattern.isEven`: both sides of every choice keep the same.
* `Pattern.forall₂_kept`, `Pattern.forall₂_match?`: what is read by them.
* `Pattern.Reads.has_of_some`: a run of one class of characters.
-/

namespace Discourse.Pattern

variable {p q : Pattern} {cls : CharClass} {cs run : List Char} {r : List Part × List Char}

/-! ## Ways to read -/

theorem mem_runRests {rest : List Char} :
    rest ∈ runRests cls cs ↔ ∃ run, cs = run ++ rest ∧ ∀ c ∈ run, cls.has c = true := by
  induction cs with
  | nil =>
    simp only [runRests, List.mem_singleton]
    constructor
    · rintro rfl
      exact ⟨[], rfl, by simp⟩
    · rintro ⟨run, h, -⟩
      exact (List.append_eq_nil_iff.mp h.symm).2
  | cons c cs ih =>
    rw [runRests]
    split
    next hc =>
      rw [List.mem_append, List.mem_singleton, ih]
      constructor
      · rintro (⟨run, rfl, hrun⟩ | rfl)
        · exact ⟨c :: run, rfl, List.forall_mem_cons.mpr ⟨hc, hrun⟩⟩
        · exact ⟨[], rfl, by simp⟩
      · rintro ⟨run, h, hrun⟩
        cases run with
        | nil => exact Or.inr h.symm
        | cons d run =>
          obtain ⟨rfl, rfl⟩ := List.cons.inj h
          exact Or.inl ⟨run, rfl, (List.forall_mem_cons.mp hrun).2⟩
    next hc =>
      rw [List.mem_singleton]
      constructor
      · rintro rfl
        exact ⟨[], rfl, by simp⟩
      · rintro ⟨run, h, hrun⟩
        cases run with
        | nil => exact h.symm
        | cons d run =>
          obtain ⟨rfl, -⟩ := List.cons.inj h
          exact absurd (List.forall_mem_cons.mp hrun).1 hc

theorem mem_readings_many {eager : Bool} :
    r ∈ (many cls eager).readings cs ↔ r.1 = [] ∧ r.2 ∈ runRests cls cs := by
  obtain ⟨groups, rest⟩ := r
  cases eager <;> simp [readings, eq_comm, and_comm]

theorem mem_readings_one :
    r ∈ (one cls).readings cs ↔ ∃ c, cs = c :: r.2 ∧ cls.has c = true ∧ r.1 = [] := by
  rw [readings.eq_def]
  cases cs with
  | nil => simp
  | cons c cs =>
    dsimp only
    split
    next hc =>
      rw [List.mem_singleton]
      constructor
      · rintro rfl
        exact ⟨c, rfl, hc, rfl⟩
      · rintro ⟨d, h, -, hnone⟩
        obtain ⟨-, hrest⟩ := List.cons.inj h
        exact Prod.ext hnone hrest.symm
    next hc =>
      constructor
      · rintro ⟨⟩
      · rintro ⟨d, h, hd, -⟩
        obtain ⟨rfl, -⟩ := List.cons.inj h
        exact absurd hd hc

theorem mem_readings_seq :
    r ∈ (seq p q).readings cs ↔
      ∃ s ∈ p.readings cs, ∃ t ∈ q.readings s.2, r = (s.1 ++ t.1, t.2) := by
  simp [readings, eq_comm]

theorem mem_readings_group :
    r ∈ (group p).readings cs ↔ ∃ s ∈ p.readings cs, r = ([⟨cs, s.2⟩], s.2) := by
  simp [readings, eq_comm]

/-- What is read stands at the front. -/
theorem exists_run (h : r ∈ p.readings cs) : ∃ run, cs = run ++ r.2 := by
  induction p generalizing cs r with
  | nothing =>
    rw [readings, List.mem_singleton] at h
    exact ⟨[], by rw [h]; rfl⟩
  | literal t =>
    rw [readings] at h
    split at h
    next hprefix =>
      rw [List.mem_singleton] at h
      obtain ⟨rest, rfl⟩ := List.isPrefixOf_iff_prefix.mp hprefix
      exact ⟨t, by rw [h, List.drop_left]⟩
    next => cases h
  | one cls =>
    obtain ⟨c, hc, -⟩ := mem_readings_one.mp h
    exact ⟨[c], hc⟩
  | many cls eager =>
    obtain ⟨run, hrun, -⟩ := mem_runRests.mp (mem_readings_many.mp h).2
    exact ⟨run, hrun⟩
  | seq p q ihp ihq =>
    obtain ⟨s, hs, t, ht, rfl⟩ := mem_readings_seq.mp h
    obtain ⟨first, hfirst⟩ := ihp hs
    obtain ⟨second, hsecond⟩ := ihq ht
    exact ⟨first ++ second, by rw [hfirst, hsecond, List.append_assoc]⟩
  | either p q ihp ihq =>
    rw [readings, List.mem_append] at h
    exact h.elim ihp ihq
  | group p ih =>
    obtain ⟨s, hs, rfl⟩ := mem_readings_group.mp h
    obtain ⟨run, hrun⟩ := ih hs
    exact ⟨run, hrun⟩

theorem chars_append (run rest : List Char) : Part.chars ⟨run ++ rest, rest⟩ = run := by
  simp [Part.chars]

/-! ## What is kept -/

/-- Whether the run can be read, whatever comes after it. -/
def Reads (p : Pattern) (run : List Char) : Prop :=
  ∃ rest, ∃ r ∈ p.readings (run ++ rest), r.2 = rest

/-- The patterns inside the groups, from left to right; of a choice, those on its left. -/
def kept : Pattern → List Pattern
  | seq p q => p.kept ++ q.kept
  | either p _ => p.kept
  | group p => [p]
  | nothing | literal _ | one _ | many _ _ => []

/-- Whether both sides of every choice keep the same. -/
def isEven : Pattern → Bool
  | seq p q => p.isEven && q.isEven
  | either p q => p.isEven && q.isEven && decide (p.kept = q.kept)
  | group _ | nothing | literal _ | one _ | many _ _ => true

/-- Each part that is kept is read by the pattern inside its group. -/
theorem forall₂_kept (heven : p.isEven = true) (h : r ∈ p.readings cs) :
    List.Forall₂ (fun part q => q.Reads part.chars) r.1 p.kept := by
  induction p generalizing cs r with
  | nothing =>
    rw [readings, List.mem_singleton] at h
    rw [h]
    exact .nil
  | literal t =>
    rw [readings] at h
    split at h
    · rw [List.mem_singleton.mp h]
      exact .nil
    · cases h
  | one cls =>
    obtain ⟨c, -, -, hnone⟩ := mem_readings_one.mp h
    rw [hnone]
    exact .nil
  | many cls eager =>
    rw [(mem_readings_many.mp h).1]
    exact .nil
  | seq p q ihp ihq =>
    rw [isEven, Bool.and_eq_true] at heven
    obtain ⟨s, hs, t, ht, rfl⟩ := mem_readings_seq.mp h
    exact List.rel_append (ihp heven.1 hs) (ihq heven.2 ht)
  | either p q ihp ihq =>
    simp only [isEven, Bool.and_eq_true, decide_eq_true_eq] at heven
    rw [readings, List.mem_append] at h
    rcases h with h | h
    · exact ihp heven.1.1 h
    · rw [kept, heven.2]
      exact ihq heven.1.2 h
  | group p =>
    obtain ⟨s, hs, rfl⟩ := mem_readings_group.mp h
    obtain ⟨run, rfl⟩ := exists_run hs
    refine .cons ⟨s.2, s, ?_, rfl⟩ .nil
    rwa [chars_append]

theorem forall₂_match? (heven : p.isEven = true) {line : String} {parts : List String}
    (h : p.match? line = Option.some parts) :
    List.Forall₂ (fun part q => q.Reads part.toList) parts p.kept := by
  rw [match?, search_eq_findSome?] at h
  obtain ⟨r, hr, hread⟩ := List.exists_of_findSome?_eq_some h
  split at hread
  · cases hread
    rw [List.forall₂_map_left_iff]
    refine (forall₂_kept heven hr).imp fun part q hq => ?_
    rwa [String.toList_ofList]
  · cases hread

theorem length_match? (heven : p.isEven = true) {line : String} {parts : List String}
    (h : p.match? line = Option.some parts) : parts.length = p.kept.length :=
  (forall₂_match? heven h).length_eq

/-- A run of at least one character of a class. -/
theorem Reads.has_of_some (h : (some cls).Reads run) : ∀ c ∈ run, cls.has c = true := by
  obtain ⟨rest, r, hr, hrest⟩ := h
  obtain ⟨s, hs, t, ht, rfl⟩ := mem_readings_seq.mp hr
  obtain ⟨c, hc, hcls, -⟩ := mem_readings_one.mp hs
  obtain ⟨more, hmore, hall⟩ := mem_runRests.mp (mem_readings_many.mp ht).2
  have hrun : run = c :: more := by
    rw [hmore, ← List.cons_append] at hc
    dsimp only at hrest
    rw [hrest] at hc
    exact List.append_cancel_right hc
  rw [hrun]
  exact List.forall_mem_cons.mpr ⟨hcls, hall⟩

end Discourse.Pattern
