import Discourse.Proofs.Pattern

/-!
# The language of a pattern

What a pattern reads does not depend on what comes after it. So each pattern has a language, the
runs of characters that it reads, and a line matches when it is in the language. Which of several
ways to read a run is the first one is another matter.

* `Pattern.reads_iff_nil`: a run is read as a line of its own.
* `Pattern.reads_literal`, `Pattern.reads_seq`, `Pattern.reads_either`, …: the language of each kind
  of pattern.
* `Pattern.match?_eq_none_iff`: a line that no reading fits.
-/

namespace Discourse.Pattern

variable {p q : Pattern} {cls : CharClass} {cs run : List Char} {r : List Part × List Char}

/-! ## Reading before whatever comes -/

/-- What is read can be read before anything else too. -/
theorem exists_run_forall (h : r ∈ p.readings cs) :
    ∃ run, cs = run ++ r.2 ∧ ∀ rest, ∃ s ∈ p.readings (run ++ rest), s.2 = rest := by
  induction p generalizing cs r with
  | nothing =>
    rw [readings, List.mem_singleton] at h
    exact ⟨[], by rw [h]; rfl, fun rest => ⟨([], rest), by simp [readings], rfl⟩⟩
  | literal t =>
    rw [readings] at h
    split at h
    next hprefix =>
      obtain ⟨rest, rfl⟩ := List.isPrefixOf_iff_prefix.mp hprefix
      rw [List.mem_singleton, List.drop_left] at h
      refine ⟨t, by rw [h], fun rest => ⟨([], rest), ?_, rfl⟩⟩
      have hfront : t.isPrefixOf (t ++ rest) = true :=
        List.isPrefixOf_iff_prefix.mpr (List.prefix_append t rest)
      rw [readings, if_pos hfront, List.mem_singleton, List.drop_left]
    next => cases h
  | one cls =>
    obtain ⟨c, hc, hcls, -⟩ := mem_readings_one.mp h
    exact ⟨[c], hc, fun rest => ⟨([], rest), mem_readings_one.mpr ⟨c, rfl, hcls, rfl⟩, rfl⟩⟩
  | many cls eager =>
    obtain ⟨run, hrun, hall⟩ := mem_runRests.mp (mem_readings_many.mp h).2
    exact ⟨run, hrun, fun rest =>
      ⟨([], rest), mem_readings_many.mpr ⟨rfl, mem_runRests.mpr ⟨run, rfl, hall⟩⟩, rfl⟩⟩
  | seq p q ihp ihq =>
    obtain ⟨s, hs, t, ht, rfl⟩ := mem_readings_seq.mp h
    obtain ⟨first, hfirst, hp⟩ := ihp hs
    obtain ⟨second, hsecond, hq⟩ := ihq ht
    refine ⟨first ++ second, by rw [hfirst, hsecond, List.append_assoc], fun rest => ?_⟩
    obtain ⟨u, hu, hurest⟩ := hp (second ++ rest)
    obtain ⟨v, hv, hvrest⟩ := hq rest
    rw [List.append_assoc]
    exact ⟨(u.1 ++ v.1, v.2), mem_readings_seq.mpr ⟨u, hu, v, hurest ▸ hv, rfl⟩, hvrest⟩
  | either p q ihp ihq =>
    rw [readings, List.mem_append] at h
    rcases h with h | h
    · obtain ⟨run, hrun, hp⟩ := ihp h
      refine ⟨run, hrun, fun rest => ?_⟩
      obtain ⟨s, hs, hrest⟩ := hp rest
      exact ⟨s, List.mem_append_left _ hs, hrest⟩
    · obtain ⟨run, hrun, hq⟩ := ihq h
      refine ⟨run, hrun, fun rest => ?_⟩
      obtain ⟨s, hs, hrest⟩ := hq rest
      exact ⟨s, List.mem_append_right _ hs, hrest⟩
  | group p ih =>
    obtain ⟨s, hs, rfl⟩ := mem_readings_group.mp h
    obtain ⟨run, hrun, hp⟩ := ih hs
    refine ⟨run, hrun, fun rest => ?_⟩
    obtain ⟨t, ht, hrest⟩ := hp rest
    exact ⟨_, mem_readings_group.mpr ⟨t, ht, rfl⟩, hrest⟩

theorem reads_iff_forall :
    p.Reads run ↔ ∀ rest, ∃ r ∈ p.readings (run ++ rest), r.2 = rest := by
  constructor
  · rintro ⟨rest, r, hr, rfl⟩
    obtain ⟨run', hrun, hall⟩ := exists_run_forall hr
    rwa [List.append_cancel_right hrun]
  · exact fun h => ⟨[], h []⟩

/-- What is read is read as a line of its own. -/
theorem reads_iff_nil : p.Reads run ↔ ∃ r ∈ p.readings run, r.2 = [] := by
  constructor
  · intro h
    simpa using reads_iff_forall.mp h []
  · intro h
    exact ⟨[], by simpa using h⟩

/-! ## The language of each kind of pattern -/

@[simp] theorem reads_nothing : nothing.Reads run ↔ run = [] := by
  simp [reads_iff_nil, readings]

@[simp] theorem reads_literal {t : List Char} : (literal t).Reads run ↔ run = t := by
  rw [reads_iff_nil, readings]
  constructor
  · rintro ⟨r, hr, hrest⟩
    split at hr
    next hprefix =>
      obtain ⟨rest, rfl⟩ := List.isPrefixOf_iff_prefix.mp hprefix
      rw [List.mem_singleton, List.drop_left] at hr
      rw [hr] at hrest
      rw [show rest = [] from hrest, List.append_nil]
    next => cases hr
  · rintro rfl
    simp

@[simp] theorem reads_one : (one cls).Reads run ↔ ∃ c, run = [c] ∧ cls.has c = true := by
  rw [reads_iff_nil]
  constructor
  · rintro ⟨r, hr, hrest⟩
    obtain ⟨c, hc, hcls, -⟩ := mem_readings_one.mp hr
    exact ⟨c, by rw [hc, hrest], hcls⟩
  · rintro ⟨c, rfl, hcls⟩
    exact ⟨([], []), mem_readings_one.mpr ⟨c, rfl, hcls, rfl⟩, rfl⟩

@[simp] theorem reads_many {eager : Bool} :
    (many cls eager).Reads run ↔ ∀ c ∈ run, cls.has c = true := by
  rw [reads_iff_nil]
  constructor
  · rintro ⟨r, hr, hrest⟩
    obtain ⟨more, hmore, hall⟩ := mem_runRests.mp (mem_readings_many.mp hr).2
    rw [hrest, List.append_nil] at hmore
    rwa [hmore]
  · intro h
    exact ⟨([], []), mem_readings_many.mpr ⟨rfl, mem_runRests.mpr ⟨run, by simp, h⟩⟩, rfl⟩

@[simp] theorem reads_seq :
    (seq p q).Reads run ↔ ∃ first second, run = first ++ second ∧ p.Reads first ∧
      q.Reads second := by
  constructor
  · intro h
    obtain ⟨r, hr, hrest⟩ := reads_iff_nil.mp h
    obtain ⟨s, hs, t, ht, rfl⟩ := mem_readings_seq.mp hr
    obtain ⟨first, hfirst, hp⟩ := exists_run_forall hs
    exact ⟨first, s.2, hfirst, reads_iff_forall.mpr hp, reads_iff_nil.mpr ⟨t, ht, hrest⟩⟩
  · rintro ⟨first, second, rfl, hp, hq⟩
    obtain ⟨s, hs, hsrest⟩ := reads_iff_forall.mp hp second
    obtain ⟨t, ht, htrest⟩ := reads_iff_nil.mp hq
    exact reads_iff_nil.mpr
      ⟨(s.1 ++ t.1, t.2), mem_readings_seq.mpr ⟨s, hs, t, hsrest ▸ ht, rfl⟩, htrest⟩

@[simp] theorem reads_either : (either p q).Reads run ↔ p.Reads run ∨ q.Reads run := by
  simp only [reads_iff_nil, readings, List.mem_append, or_and_right, exists_or]

@[simp] theorem reads_group : (group p).Reads run ↔ p.Reads run := by
  simp [reads_iff_nil, readings]

@[simp] theorem reads_text {s : String} : (text s).Reads run ↔ run = s.toList := reads_literal

theorem anyOf_cons_cons (s t : String) (ss : List String) :
    anyOf (s :: t :: ss) = either (text s) (anyOf (t :: ss)) := rfl

@[simp] theorem reads_maybe : (maybe p).Reads run ↔ p.Reads run ∨ run = [] := by
  rw [maybe, reads_either, reads_nothing]

@[simp] theorem reads_sequence_nil : (sequence []).Reads run ↔ run = [] := reads_nothing

@[simp] theorem reads_sequence_cons {ps : List Pattern} :
    (sequence (p :: ps)).Reads run ↔ ∃ first second, run = first ++ second ∧ p.Reads first ∧
      (sequence ps).Reads second := reads_seq

theorem reads_one_many {eager : Bool} :
    (seq (one cls) (many cls eager)).Reads run ↔ run ≠ [] ∧ ∀ c ∈ run, cls.has c = true := by
  rw [reads_seq]
  constructor
  · rintro ⟨first, second, rfl, hfirst, hsecond⟩
    obtain ⟨c, rfl, hc⟩ := reads_one.mp hfirst
    exact ⟨List.cons_ne_nil c second, List.forall_mem_cons.mpr ⟨hc, reads_many.mp hsecond⟩⟩
  · rintro ⟨hne, hall⟩
    obtain ⟨c, more, rfl⟩ := List.exists_cons_of_ne_nil hne
    obtain ⟨hc, hmore⟩ := List.forall_mem_cons.mp hall
    exact ⟨[c], more, rfl, reads_one.mpr ⟨c, rfl, hc⟩, reads_many.mpr hmore⟩

@[simp] theorem reads_some :
    (some cls).Reads run ↔ run ≠ [] ∧ ∀ c ∈ run, cls.has c = true := reads_one_many

/-! ## Lines -/

/-- A line does not match when it is not in the language. -/
theorem match?_eq_none_iff {line : String} :
    p.match? line = none ↔ ¬ p.Reads line.toList := by
  rw [match?, search_eq_findSome?, List.findSome?_eq_none_iff, reads_iff_nil]
  constructor
  · rintro h ⟨r, hr, hrest⟩
    simpa [hrest] using h r hr
  · intro h r hr
    have hrest : r.2 ≠ [] := fun hnil => h ⟨r, hr, hnil⟩
    simp [hrest]

end Discourse.Pattern
