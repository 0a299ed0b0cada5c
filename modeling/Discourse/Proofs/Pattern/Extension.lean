import Discourse.Proofs.Pattern.First

/-!
# One more character

When a text goes on by one more character, the readings that had left something go on as before, and
so do those that had left nothing; others may reach the new end. So if a pattern never reads up to
the new end, or if what comes after it would not then go on, the search takes the same course.

* `Pattern.extend`: a reading of a text that is one character longer.
* `Pattern.filter_readings_concat`: the readings that do not reach the new end.
* `Pattern.fits?_seq_concat`: a text in two pieces.
* `Pattern.searchLazy_concat`: a run that is as short as possible.
-/

namespace Discourse.Pattern

variable {α : Type} {p q : Pattern} {cls : CharClass} {cs rest : List Char} {c : Char}

/-! ## Readings that go on -/

/-- The part in a text that is one character longer. -/
def Part.extend (c : Char) (p : Part) : Part := ⟨p.start ++ [c], p.rest ++ [c]⟩

@[simp] theorem Part.chars_extend (c : Char) (p : Part) : (p.extend c).chars = p.chars := by
  have hlength : (p.start ++ [c]).length - (p.rest ++ [c]).length =
      p.start.length - p.rest.length := by
    rw [List.length_append, List.length_append, Nat.add_sub_add_right]
  rw [chars, chars, extend, hlength, List.take_append_of_le_length (Nat.sub_le _ _)]

/-- The reading in a text that is one character longer. -/
def extend (c : Char) (r : List Part × List Char) : List Part × List Char :=
  (r.1.map (Part.extend c), r.2 ++ [c])

/-- Whether a reading stops before the end. -/
def leaves (r : List Part × List Char) : Bool := !r.2.isEmpty

theorem filter_runRests_concat (cls : CharClass) (cs : List Char) (c : Char) :
    (runRests cls (cs ++ [c])).filter (fun rest => !rest.isEmpty) =
      (runRests cls cs).map (· ++ [c]) := by
  induction cs with
  | nil => cases h : cls.has c <;> simp [runRests, h]
  | cons d cs ih => cases h : cls.has d <;> simp [runRests, h, ih]

/-- Nothing comes after the end of a text. -/
theorem rest_eq_nil {r : List Part × List Char} (h : r ∈ q.readings []) : r.2 = [] := by
  obtain ⟨run, hrun⟩ := exists_run h
  exact (List.append_eq_nil_iff.mp hrun.symm).2

theorem flatMap_filter {β : Type} {keep : α → Bool} {f : α → List β} {l : List α}
    (h : ∀ a ∈ l, keep a = false → f a = []) : (l.filter keep).flatMap f = l.flatMap f := by
  induction l with
  | nil => rfl
  | cons a l ih =>
    obtain ⟨ha, hl⟩ := List.forall_mem_cons.mp h
    cases hkeep : keep a <;> simp [hkeep, ha, ih hl]

/-- The readings of a longer text that stop before its end are those of the text, in the same
order. -/
theorem filter_readings_concat (p : Pattern) (cs : List Char) (c : Char) :
    (p.readings (cs ++ [c])).filter leaves = (p.readings cs).map (extend c) := by
  induction p generalizing cs with
  | nothing => simp [readings, leaves, extend]
  | literal t =>
    by_cases ht : t <+: cs
    · obtain ⟨rest, rfl⟩ := ht
      simp [readings, leaves, extend, List.append_assoc]
    · by_cases hall : t = cs ++ [c]
      · subst hall
        simp [readings, leaves, ht]
      · have hlonger : ¬ t <+: cs ++ [c] := fun h =>
          (List.prefix_concat_iff.mp h).elim hall ht
        simp [readings, ht, hlonger]
  | one cls =>
    cases cs with
    | nil => cases h : cls.has c <;> simp [readings, leaves, h]
    | cons d cs => cases h : cls.has d <;> simp [readings, leaves, extend, h]
  | many cls eager =>
    have hpairs : ∀ rests : List (List Char),
        (rests.map fun rest => (([] : List Part), rest)).filter leaves =
          (rests.filter fun rest => !rest.isEmpty).map fun rest => ([], rest) :=
      fun _ => List.filter_map
    cases eager with
    | true =>
      simp only [readings, if_true, hpairs, filter_runRests_concat, List.map_map]
      rfl
    | false =>
      simp only [readings, Bool.false_eq_true, if_false, hpairs, List.filter_reverse,
        filter_runRests_concat, ← List.map_reverse, List.map_map]
      rfl
  | seq p q ihp ihq =>
    let along (r : List Part × List Char) : List (List Part × List Char) :=
      (q.readings r.2).map fun s => (r.1 ++ s.1, s.2)
    have hpairs : ∀ (r : List Part × List Char) (ss : List (List Part × List Char)),
        (ss.map fun s => (r.1 ++ s.1, s.2)).filter leaves =
          (ss.filter leaves).map fun s => (r.1 ++ s.1, s.2) := fun _ _ => List.filter_map
    -- Where the first piece reaches the end, the second one cannot stop before it.
    have hend : ∀ r ∈ p.readings (cs ++ [c]), leaves r = false → (along r).filter leaves = [] := by
      intro r _ hr
      have hnil : r.2 = [] := by simpa [leaves] using hr
      refine (hpairs r _).trans ?_
      rw [hnil, List.filter_eq_nil_iff.mpr fun s hs => by simp [leaves, rest_eq_nil hs],
        List.map_nil]
    have hon : ∀ r, (along (extend c r)).filter leaves = (along r).map (extend c) := by
      intro r
      refine (hpairs (extend c r) _).trans ?_
      rw [extend, ihq, List.map_map, List.map_map]
      refine List.map_congr_left fun s _ => ?_
      simp [extend]
    calc ((p.readings (cs ++ [c])).flatMap along).filter leaves
        = (p.readings (cs ++ [c])).flatMap fun r => (along r).filter leaves :=
          List.filter_flatMap ..
      _ = ((p.readings (cs ++ [c])).filter leaves).flatMap fun r => (along r).filter leaves :=
          (flatMap_filter hend).symm
      _ = (p.readings cs).flatMap fun r => (along r).map (extend c) := by
          rw [ihp, List.flatMap_map]
          exact List.flatMap_congr fun r _ => hon r
      _ = ((p.readings cs).flatMap along).map (extend c) := (List.map_flatMap ..).symm
  | either p q ihp ihq =>
    rw [readings, List.filter_append, ihp, ihq, ← List.map_append]
    rfl
  | group p ih =>
    have hgroup : ∀ rs : List (List Part × List Char),
        (rs.map fun r => ([(⟨cs ++ [c], r.2⟩ : Part)], r.2)).filter leaves =
          (rs.filter leaves).map fun r => ([⟨cs ++ [c], r.2⟩], r.2) := fun _ => List.filter_map
    rw [readings, readings, hgroup, ih, List.map_map, List.map_map]
    rfl

/-! ## Texts in two pieces -/

/-- The parts of a reading in words. -/
def wordsOf (r : List Part × List Char) : List String :=
  r.1.map fun part => String.ofList part.chars

theorem length_wordsOf {r : List Part × List Char} (heven : p.isEven = true)
    (hr : r ∈ p.readings cs) : (wordsOf r).length = p.kept.length := by
  rw [wordsOf, List.length_map, (forall₂_kept heven hr).length_eq]

@[simp] theorem wordsOf_extend (c : Char) (r : List Part × List Char) :
    wordsOf (extend c r) = wordsOf r := by
  rw [wordsOf, extend, List.map_map]
  exact List.map_congr_left fun part _ => congrArg String.ofList (part.chars_extend c)

theorem fits?_sequence_append (ps qs : List Pattern) (cs : List Char) :
    (sequence (ps ++ qs)).fits? cs = (seq (sequence ps) (sequence qs)).fits? cs :=
  search_sequence_append ps qs cs accept

/-- What is kept of a text in two pieces: the first reading of the one piece with which the other
piece can be read to the end. -/
theorem fits?_seq (p q : Pattern) (cs : List Char) :
    (seq p q).fits? cs =
      (p.readings cs).findSome? fun r => (q.fits? r.2).map (wordsOf r ++ ·) := by
  rw [fits?, search]
  simp only [search_accept_append]
  exact search_eq_findSome? p cs _

theorem findSome?_filter {β : Type} {keep : α → Bool} {f : α → Option β} {l : List α}
    (h : ∀ a ∈ l, keep a = false → f a = none) : (l.filter keep).findSome? f = l.findSome? f := by
  induction l with
  | nil => rfl
  | cons a l ih =>
    obtain ⟨ha, hl⟩ := List.forall_mem_cons.mp h
    cases hkeep : keep a <;> simp [hkeep, ha, ih hl, List.findSome?_cons]

/-- If the first piece does not reach the new end, or if the other piece cannot be read there, the
first piece is read as before. -/
theorem fits?_seq_concat (h : p.Reads (cs ++ [c]) → ¬ q.Reads []) :
    (seq p q).fits? (cs ++ [c]) =
      (p.readings cs).findSome? fun r => (q.fits? (r.2 ++ [c])).map (wordsOf r ++ ·) := by
  have hend : ∀ r ∈ p.readings (cs ++ [c]), leaves r = false →
      (q.fits? r.2).map (wordsOf r ++ ·) = none := by
    intro r hr hleaves
    have hnil : r.2 = [] := by simpa [leaves] using hleaves
    rw [hnil, fits?_eq_none_iff.mpr (h (reads_iff_nil.mpr ⟨r, hr, hnil⟩)), Option.map_none]
  rw [fits?_seq, ← findSome?_filter hend, filter_readings_concat, List.findSome?_map]
  simp only [Function.comp_def, wordsOf_extend]
  rfl

/-- A run that is as short as possible does not reach the new end if it can end before that. -/
theorem searchLazy_concat {k k' : List Char → Option α} (hk : ∀ rest, k (rest ++ [c]) = k' rest)
    (hend : (k' []).isSome = true) : searchLazy cls k (cs ++ [c]) = searchLazy cls k' cs := by
  induction cs with
  | nil =>
    obtain ⟨a, ha⟩ := Option.isSome_iff_exists.mp hend
    have hc : k [c] = .some a := (hk []).trans ha
    simp only [List.nil_append, searchLazy, hc, ha]
  | cons d cs ih =>
    rw [List.cons_append, searchLazy, ← List.cons_append, hk, ih, searchLazy]

/-- The same, where the run is kept. -/
theorem fits?_seq_group_few_concat (hne : cs ≠ [])
    (hq : ∀ rest, q.fits? (rest ++ [c]) = q.fits? rest) (hend : q.Reads []) :
    (seq (group (few cls)) q).fits? (cs ++ [c]) = (seq (group (few cls)) q).fits? cs := by
  obtain ⟨d, cs, rfl⟩ := List.exists_cons_of_ne_nil hne
  by_cases hd : cls.has d = true
  · obtain ⟨kept, hkept⟩ := exists_fits?_of_reads hend
    rw [few, List.cons_append, fits?_seq_group_one_many hd, fits?_seq_group_one_many hd]
    refine searchLazy_concat (fun rest => ?_) (by simp [hkept])
    have hchars := Part.chars_extend c ⟨d :: cs, rest⟩
    rw [Part.extend, List.cons_append] at hchars
    dsimp only
    rw [hq, hchars]
  · have hnone : ∀ more, ¬ (seq (group (few cls)) q).Reads (d :: more) := by
      intro more hreads
      obtain ⟨run, rest, hsplit, hrun, -⟩ := reads_seq.mp hreads
      obtain ⟨hrun, hall⟩ := reads_one_many.mp (reads_group.mp hrun)
      obtain ⟨e, run, rfl⟩ := List.exists_cons_of_ne_nil hrun
      obtain ⟨rfl, -⟩ := List.cons.inj hsplit
      exact hd (hall d List.mem_cons_self)
    rw [List.cons_append, fits?_eq_none_iff.mpr (hnone _), fits?_eq_none_iff.mpr (hnone _)]

end Discourse.Pattern
