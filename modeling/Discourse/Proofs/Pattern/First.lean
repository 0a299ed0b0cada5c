import Discourse.Proofs.Pattern.Language

/-!
# The first reading

Of several ways to read a line the first one stands. It is found piece by piece: a run that is as
long as possible is read to its end when the rest can then be read, and a run that is as short as
possible ends at the first place from which the rest can be read.

* `Pattern.fits?`: what is kept of a text that is read to its end.
* `Pattern.fits?_eq_none_iff`: a text that no reading fits.
* `Pattern.exists_of_fits?_seq_bare`, `Pattern.exists_of_fits?_seq_group`: a text in two pieces.
* `Pattern.fits?_seq_many`, `Pattern.fits?_seq_group_some`, `Pattern.fits?_seq_group_few`,
  `Pattern.fits?_seq_maybe`, …: the first piece of a text, by the kind of its pattern.
-/

namespace Discourse.Pattern

variable {α β : Type} {p q : Pattern} {cls : CharClass} {cs run rest : List Char}
  {kept : List String}

/-! ## Searching -/

/-- The answers of a continuation can be changed before or after the search. -/
theorem search_map (p : Pattern) (cs : List Char) (k : List Part → List Char → Option α)
    (f : α → β) :
    p.search cs (fun groups rest => (k groups rest).map f) = (p.search cs k).map f := by
  rw [search_eq_findSome?, search_eq_findSome?]
  induction p.readings cs with
  | nil => rfl
  | cons r rs ih =>
    rw [List.findSome?_cons, List.findSome?_cons, ih]
    cases k r.1 r.2 <;> rfl

theorem search_one_cons {k : List Part → List Char → Option α} {c : Char}
    (hc : cls.has c = true) : (one cls).search (c :: cs) k = k [] cs := if_pos hc

theorem search_sequence_append (ps qs : List Pattern) (cs : List Char)
    (k : List Part → List Char → Option α) :
    (sequence (ps ++ qs)).search cs k = (seq (sequence ps) (sequence qs)).search cs k := by
  induction ps generalizing cs k with
  | nil => rfl
  | cons p ps ih =>
    simp only [List.cons_append, sequence, search] at ih ⊢
    simp only [ih, List.append_assoc]

/-- The class goes no further. -/
def Stops (cls : CharClass) (rest : List Char) : Prop := ∀ c ∈ rest.head?, cls.has c = false

theorem stops_nil : Stops cls [] := by rintro _ ⟨⟩

theorem stops_cons {c : Char} (h : cls.has c = false) : Stops cls (c :: rest) := by
  rintro _ ⟨⟩
  exact h

theorem stops_append (hne : run ≠ []) (h : ∀ c ∈ run, cls.has c = false) :
    Stops cls (run ++ rest) := by
  obtain ⟨c, run, rfl⟩ := List.exists_cons_of_ne_nil hne
  exact stops_cons (h c List.mem_cons_self)

/-- Two runs of a class that go as far as possible are the same. -/
theorem append_inj_of_stops {run' rest' : List Char} (hrun : ∀ c ∈ run, cls.has c = true)
    (hrun' : ∀ c ∈ run', cls.has c = true) (hrest : Stops cls rest) (hrest' : Stops cls rest')
    (h : run ++ rest = run' ++ rest') : run = run' ∧ rest = rest' := by
  induction run generalizing run' with
  | nil =>
    cases run' with
    | nil => exact ⟨rfl, h⟩
    | cons c run' =>
      have hnot := hrest c (by rw [List.nil_append] at h; rw [h]; rfl)
      rw [hrun' c List.mem_cons_self] at hnot
      cases hnot
  | cons c run ih =>
    cases run' with
    | nil =>
      have hnot := hrest' c (by rw [List.nil_append] at h; rw [← h]; rfl)
      rw [hrun c List.mem_cons_self] at hnot
      cases hnot
    | cons d run' =>
      obtain ⟨rfl, htail⟩ := List.cons.inj h
      obtain ⟨rfl, hrest⟩ :=
        ih (List.forall_mem_cons.mp hrun).2 (List.forall_mem_cons.mp hrun').2 htail
      exact ⟨rfl, hrest⟩

theorem searchEager_append {k : List Char → Option α} {a : α}
    (hrun : ∀ c ∈ run, cls.has c = true) (hstops : Stops cls rest) (hk : k rest = .some a) :
    searchEager cls k (run ++ rest) = .some a := by
  induction run with
  | nil =>
    cases rest with
    | nil => exact hk
    | cons c rest =>
      have hc : ¬ cls.has c = true := by simp [hstops c rfl]
      rw [List.nil_append, searchEager, if_neg hc, hk]
  | cons c run ih =>
    obtain ⟨hc, hrun⟩ := List.forall_mem_cons.mp hrun
    rw [List.cons_append, searchEager, if_pos hc, ih hrun]

theorem searchLazy_append {k : List Char → Option α} {a : α}
    (hrun : ∀ c ∈ run, cls.has c = true)
    (hearlier : ∀ first second, run = first ++ second → second ≠ [] → k (second ++ rest) = none)
    (hk : k rest = .some a) : searchLazy cls k (run ++ rest) = .some a := by
  induction run with
  | nil => cases rest <;> simp [searchLazy, hk]
  | cons c run ih =>
    obtain ⟨hc, hrun⟩ := List.forall_mem_cons.mp hrun
    have hnone : k (c :: (run ++ rest)) = none := hearlier [] (c :: run) rfl (by simp)
    rw [List.cons_append, searchLazy, hnone]
    dsimp only
    rw [if_pos hc]
    exact ih hrun fun first second hsplit => hearlier (c :: first) second (by rw [hsplit]; rfl)

/-! ## A text that is read to its end -/

/-- The parts in words, if nothing is left. -/
def accept (groups : List Part) (rest : List Char) : Option (List String) :=
  if rest.isEmpty then .some (groups.map fun part => String.ofList part.chars) else none

/-- What is kept of a text that is read to its end. -/
def fits? (p : Pattern) (cs : List Char) : Option (List String) := p.search cs accept

theorem match?_eq_fits? (p : Pattern) (line : String) : p.match? line = p.fits? line.toList := rfl

theorem fits?_eq_none_iff : p.fits? cs = none ↔ ¬ p.Reads cs := by
  have hline : p.match? (String.ofList cs) = none ↔ ¬ p.Reads (String.ofList cs).toList :=
    match?_eq_none_iff
  rwa [match?_eq_fits?, String.toList_ofList] at hline

theorem exists_fits?_of_reads (h : p.Reads cs) : ∃ kept, p.fits? cs = .some kept := by
  rw [← Option.isSome_iff_exists, Option.isSome_iff_ne_none]
  exact fun hnone => fits?_eq_none_iff.mp hnone h

theorem reads_of_fits? (h : p.fits? cs = .some kept) : p.Reads cs := by
  by_contra hnot
  rw [fits?_eq_none_iff.mpr hnot] at h
  cases h

theorem accept_append (groups more : List Part) (rest : List Char) :
    accept (groups ++ more) rest =
      (accept more rest).map (groups.map (fun part => String.ofList part.chars) ++ ·) := by
  unfold accept
  split <;> simp

/-- What is kept before the search goes on stands at the front. -/
theorem search_accept_append (q : Pattern) (cs : List Char) (groups : List Part) :
    q.search cs (fun more rest => accept (groups ++ more) rest) =
      (q.fits? cs).map (groups.map (fun part => String.ofList part.chars) ++ ·) := by
  simp only [accept_append, search_map]
  rfl

/-! ## The first piece -/

theorem fits?_seq_assoc {r : Pattern} :
    (seq (seq p q) r).fits? cs = (seq p (seq q r)).fits? cs := by
  simp only [fits?, search, List.append_assoc]

/-- A sequence within a sequence. -/
theorem fits?_sequence_sequence {ps qs : List Pattern} :
    (sequence (sequence ps :: qs)).fits? cs = (sequence (ps ++ qs)).fits? cs :=
  (search_sequence_append ps qs cs accept).symm

/-- Whatever is kept is kept by the first piece or by what comes after it. -/
theorem exists_of_fits?_seq (h : (seq p q).fits? cs = .some kept) :
    ∃ r ∈ p.readings cs, ∃ more, q.fits? r.2 = .some more ∧
      kept = r.1.map (fun part => String.ofList part.chars) ++ more := by
  rw [fits?, search] at h
  simp only [search_accept_append] at h
  rw [search_eq_findSome?] at h
  obtain ⟨r, hr, hmap⟩ := List.exists_of_findSome?_eq_some h
  obtain ⟨more, hmore, rfl⟩ := Option.map_eq_some_iff.mp hmap
  exact ⟨r, hr, more, hmore, rfl⟩

/-- A first piece that keeps nothing. -/
theorem exists_of_fits?_seq_bare (heven : p.isEven = true) (hbare : p.kept = [])
    (h : (seq p q).fits? cs = .some kept) :
    ∃ run rest, cs = run ++ rest ∧ p.Reads run ∧ q.fits? rest = .some kept := by
  obtain ⟨r, hr, more, hmore, rfl⟩ := exists_of_fits?_seq h
  obtain ⟨run, rfl⟩ := exists_run hr
  have hgroups := forall₂_kept heven hr
  rw [hbare, List.forall₂_nil_right_iff] at hgroups
  exact ⟨run, r.2, rfl, ⟨r.2, r, hr, rfl⟩, by rw [hgroups]; exact hmore⟩

/-- A first piece that is kept. -/
theorem exists_of_fits?_seq_group (h : (seq (group p) q).fits? cs = .some kept) :
    ∃ run rest more, cs = run ++ rest ∧ p.Reads run ∧ q.fits? rest = .some more ∧
      kept = String.ofList run :: more := by
  obtain ⟨r, hr, more, hmore, rfl⟩ := exists_of_fits?_seq h
  obtain ⟨s, hs, rfl⟩ := mem_readings_group.mp hr
  obtain ⟨run, rfl⟩ := exists_run hs
  exact ⟨run, s.2, more, rfl, ⟨s.2, s, hs, rfl⟩, hmore, by simp [chars_append]⟩

theorem fits?_seq_congr {r : Pattern} (h : ∀ rest, q.fits? rest = r.fits? rest) :
    (seq p q).fits? cs = (seq p r).fits? cs := by
  rw [fits?, fits?, search, search]
  simp only [search_accept_append, h]

theorem fits?_seq_literal {t : List Char} (h : q.fits? rest = .some kept) :
    (seq (literal t) q).fits? (t ++ rest) = .some kept := by
  have hfront : t.isPrefixOf (t ++ rest) = true :=
    List.isPrefixOf_iff_prefix.mpr (List.prefix_append t rest)
  rw [fits?, search, search, if_pos hfront, List.drop_left]
  exact h

/-- A run that is as long as possible. -/
theorem fits?_seq_many (hrun : ∀ c ∈ run, cls.has c = true) (hstops : Stops cls rest)
    (h : q.fits? rest = .some kept) :
    (seq (many cls true) q).fits? (run ++ rest) = .some kept :=
  searchEager_append hrun hstops h

theorem fits?_seq_some (hne : run ≠ []) (hrun : ∀ c ∈ run, cls.has c = true)
    (hstops : Stops cls rest) (h : q.fits? rest = .some kept) :
    (seq (some cls) q).fits? (run ++ rest) = .some kept := by
  obtain ⟨c, run, rfl⟩ := List.exists_cons_of_ne_nil hne
  obtain ⟨hc, hrun⟩ := List.forall_mem_cons.mp hrun
  rw [some, fits?_seq_assoc, fits?, search, List.cons_append, search_one_cons hc]
  exact fits?_seq_many hrun hstops h

/-- A group reads what its pattern reads, and keeps it. -/
theorem fits?_seq_group_one_many {eager : Bool} {c : Char} (hc : cls.has c = true) :
    (seq (group (seq (one cls) (many cls eager))) q).fits? (c :: cs) =
      (many cls eager).search cs fun _ rest =>
        (q.fits? rest).map (String.ofList (Part.chars ⟨c :: cs, rest⟩) :: ·) := by
  change (one cls).search (c :: cs) (fun _ rest => (many cls eager).search rest _) = _
  rw [search_one_cons hc]
  simp only [search_accept_append]
  rfl

/-- A run that is kept, as long as possible. -/
theorem fits?_seq_group_some (hne : run ≠ []) (hrun : ∀ c ∈ run, cls.has c = true)
    (hstops : Stops cls rest) (h : q.fits? rest = .some kept) :
    (seq (group (some cls)) q).fits? (run ++ rest) = .some (String.ofList run :: kept) := by
  obtain ⟨c, run, rfl⟩ := List.exists_cons_of_ne_nil hne
  obtain ⟨hc, hrun⟩ := List.forall_mem_cons.mp hrun
  rw [some, List.cons_append, fits?_seq_group_one_many hc]
  refine searchEager_append hrun hstops ?_
  dsimp only
  rw [h, ← List.cons_append, chars_append]
  rfl

/-- A run that is kept, as short as possible: it ends where the rest can be read, and from no
earlier place can the rest be read. -/
theorem fits?_seq_group_few (hne : run ≠ []) (hrun : ∀ c ∈ run, cls.has c = true)
    (hearlier : ∀ first second, run = first ++ second → first ≠ [] → second ≠ [] →
      ¬ q.Reads (second ++ rest))
    (h : q.fits? rest = .some kept) :
    (seq (group (few cls)) q).fits? (run ++ rest) = .some (String.ofList run :: kept) := by
  obtain ⟨c, run, rfl⟩ := List.exists_cons_of_ne_nil hne
  obtain ⟨hc, hrun⟩ := List.forall_mem_cons.mp hrun
  rw [few, List.cons_append, fits?_seq_group_one_many hc]
  refine searchLazy_append hrun (fun first second hsplit hsecond => ?_) ?_
  · have hnone := hearlier (c :: first) second (by rw [hsplit]; rfl) (by simp) hsecond
    dsimp only
    rw [fits?_eq_none_iff.mpr hnone]
    rfl
  · dsimp only
    rw [h, ← List.cons_append, chars_append]
    rfl

theorem fits?_seq_either_left {r : Pattern} (h : (seq p q).fits? cs = .some kept) :
    (seq (either p r) q).fits? cs = .some kept := by
  simp only [fits?, search] at h ⊢
  rw [h]

theorem fits?_seq_either_right {r : Pattern} (h : ¬ (seq p q).Reads cs) :
    (seq (either p r) q).fits? cs = (seq r q).fits? cs := by
  have hnone := fits?_eq_none_iff.mpr h
  simp only [fits?, search] at hnone ⊢
  rw [hnone]

/-- What need not be there, where it is there. -/
theorem fits?_seq_maybe (h : (seq p q).fits? cs = .some kept) :
    (seq (maybe p) q).fits? cs = .some kept := fits?_seq_either_left h

/-- What need not be there, where it is not there. -/
theorem fits?_seq_maybe_of_not_reads (h : ¬ (seq p q).Reads cs) :
    (seq (maybe p) q).fits? cs = q.fits? cs := fits?_seq_either_right h

end Discourse.Pattern
