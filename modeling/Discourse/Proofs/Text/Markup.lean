import Discourse.Proofs.Text.Replacement
import Discourse.Text.Markup

/-!
# What escaping does

Five characters are replaced by their entities, the ampersand before the others because it stands in
all entities. What is escaped opens and closes nothing, and since no entity begins another one it
can be read back.

* `entities`, `isMarkup`: what is replaced and by what, and what opens or closes something.
* `escape_eq_replace`: the replacements one after another.
* `isMarkup_of_mem_escape`, `filter_escape`: what escaping takes away and what it keeps.
* `escape_injective`: different texts stay different.
-/

namespace Discourse.Text

/-- What is replaced and by what, in the order in which it is done. -/
def entities : List (CodePoint × Text) :=
  [(.char '&', "&amp;"), (.char '<', "&lt;"), (.char '>', "&gt;"), (.char '"', "&quot;"),
    (.char '\'', "&#x27;")]

/-- An angle bracket or a quote. -/
def isMarkup (p : CodePoint) : Bool :=
  p ∈ [CodePoint.char '<', .char '>', .char '"', .char '\'']

variable {p q : CodePoint} {t : Text}

theorem escapePoint_of_not_mem (h : p ∉ entities.map Prod.fst) : escapePoint p = [p] := by
  cases p with
  | half index => rfl
  | char c =>
    have hc : escapeChar c = [c] := by
      unfold escapeChar
      split <;> simp_all [entities]
    rw [escapePoint, hc]
    rfl

/-! ## One replacement after another -/

/-- Several replacements of single code points are made code point by code point. -/
theorem foldl_replaceAll (rs : List (CodePoint × Text)) (ps : List CodePoint) :
    rs.foldl (fun ps r => replaceAll [r.1] r.2.points ps) ps =
      ps.flatMap fun p => rs.foldl (fun ps r => replaceAll [r.1] r.2.points ps) [p] := by
  induction rs generalizing ps with
  | nil => exact (List.flatMap_singleton' ps).symm
  | cons r rs ih =>
    simp only [List.foldl_cons]
    rw [ih, replaceAll_singleton, List.flatMap_assoc]
    congr 1
    ext1 p
    rw [ih (replaceAll _ _ [p]), replaceAll_singleton, List.flatMap_singleton]

/-- No replacement touches what comes of the ones before it. -/
theorem foldl_entities (p : CodePoint) :
    entities.foldl (fun ps r => replaceAll [r.1] r.2.points ps) [p] = escapePoint p := by
  by_cases hp : p ∈ entities.map Prod.fst
  · have hentities : ∀ p ∈ entities.map Prod.fst,
        entities.foldl (fun ps r => replaceAll [r.1] r.2.points ps) [p] = escapePoint p := by
      decide +kernel
    exact hentities p hp
  · rw [escapePoint_of_not_mem hp]
    have hother : ∀ r ∈ entities, replaceAll [r.1] r.2.points [p] = [p] := by
      intro r hr
      rw [replaceAll_singleton, List.flatMap_singleton, if_neg]
      rw [beq_iff_eq]
      rintro rfl
      exact hp (List.mem_map_of_mem hr)
    apply List.foldlRecOn (motive := fun ps => ps = [p])
    · rfl
    · rintro ps rfl r hr
      exact hother r hr

theorem escape_eq_replace (t : Text) :
    escape t = entities.foldl (fun t r => replace ⟨[r.1]⟩ r.2 t) t := by
  ext1
  have hpoints : entities.foldl (fun ps r => replaceAll [r.1] r.2.points ps) t.points =
      (entities.foldl (fun t r => replace ⟨[r.1]⟩ r.2 t) t).points :=
    List.foldl_hom points fun _ _ => rfl
  rw [← hpoints, foldl_replaceAll]
  simp only [foldl_entities]
  rfl

/-! ## What is left -/

theorem isMarkup_of_mem_escape (h : p ∈ (escape t).points) : isMarkup p = false := by
  have hentities : ∀ q ∈ entities.map Prod.fst, ∀ p ∈ escapePoint q, isMarkup p = false := by
    decide
  have hmarkup : ∀ q, isMarkup q = true → q ∈ entities.map Prod.fst := by
    simp [isMarkup, entities]
  obtain ⟨q, -, hp⟩ := List.mem_flatMap.mp h
  by_cases hq : q ∈ entities.map Prod.fst
  · exact hentities q hq p hp
  · rw [escapePoint_of_not_mem hq, List.mem_singleton] at hp
    rw [hp, Bool.eq_false_iff]
    exact fun hmark => hq (hmarkup q hmark)

/-- What escaping neither replaces nor puts in stays where it was. -/
theorem filter_escape {keep : CodePoint → Bool}
    (h : ∀ p ∈ entities.map Prod.fst, keep p = false ∧ ∀ q ∈ escapePoint p, keep q = false)
    (t : Text) : (escape t).points.filter keep = t.points.filter keep := by
  have hpoint : ∀ p, (escapePoint p).filter keep = [p].filter keep := by
    intro p
    by_cases hp : p ∈ entities.map Prod.fst
    · obtain ⟨hkeep, hentity⟩ := h p hp
      rw [List.filter_singleton, hkeep]
      simpa using hentity
    · rw [escapePoint_of_not_mem hp]
  calc (escape t).points.filter keep
      = t.points.flatMap fun p => (escapePoint p).filter keep := List.filter_flatMap
    _ = t.points.flatMap fun p => [p].filter keep := by simp only [hpoint]
    _ = t.points.filter keep := by rw [← List.filter_flatMap, List.flatMap_singleton']

/-! ## Reading it back -/

/-- No entity begins another one. -/
theorem eq_of_begins (h : escapePoint p <+: escapePoint q) : p = q := by
  by_cases hp : p ∈ entities.map Prod.fst
  · by_cases hq : q ∈ entities.map Prod.fst
    · have hboth : ∀ p ∈ entities.map Prod.fst, ∀ q ∈ entities.map Prod.fst,
          escapePoint p <+: escapePoint q → p = q := by
        decide
      exact hboth p hp q hq h
    · have hlong : ∀ p ∈ entities.map Prod.fst, 1 < (escapePoint p).length := by decide
      have hlength := h.length_le
      rw [escapePoint_of_not_mem hq, List.length_singleton] at hlength
      exact absurd (hlong p hp) (Nat.not_lt.mpr hlength)
  · rw [escapePoint_of_not_mem hp] at h
    by_cases hq : q ∈ entities.map Prod.fst
    · have hamp : ∀ q ∈ entities.map Prod.fst,
          ∃ r ∈ entities.map Prod.fst, escapePoint q = r :: (escapePoint q).tail := by
        decide
      obtain ⟨r, hr, hcons⟩ := hamp q hq
      rw [hcons, List.cons_prefix_cons] at h
      exact absurd (h.1 ▸ hr) hp
    · rw [escapePoint_of_not_mem hq, List.cons_prefix_cons] at h
      exact h.1

theorem escapePoint_ne_nil (p : CodePoint) : escapePoint p ≠ [] := by
  intro h
  have hevery : ∀ q, p = q := fun q => eq_of_begins (h ▸ List.nil_prefix)
  cases (hevery (.char '<')).symm.trans (hevery (.char '>'))

theorem flatMap_escapePoint_injective : Function.Injective (List.flatMap escapePoint) := by
  intro ps
  induction ps with
  | nil =>
    rintro (_ | ⟨q, qs⟩) h
    · rfl
    · exact absurd (List.append_eq_nil_iff.mp h.symm).1 (escapePoint_ne_nil q)
  | cons p ps ih =>
    rintro (_ | ⟨q, qs⟩) h
    · exact absurd (List.append_eq_nil_iff.mp h).1 (escapePoint_ne_nil p)
    · rw [List.flatMap_cons, List.flatMap_cons] at h
      have hpq : p = q := by
        have hbegins : escapePoint q <+: escapePoint p ++ ps.flatMap escapePoint :=
          h ▸ List.prefix_append _ _
        rcases List.prefix_or_prefix_of_prefix (List.prefix_append _ _) hbegins with hbegin | hbegin
        · exact eq_of_begins hbegin
        · exact (eq_of_begins hbegin).symm
      subst hpq
      rw [ih (List.append_cancel_left h)]

theorem escape_injective : Function.Injective escape :=
  fun _ _ h => Text.ext (flatMap_escapePoint_injective (congrArg points h))

end Discourse.Text
