import Discourse.Proofs.Json.Lexing

/-!
# Reading back a value

The tokens of a legible value are put together to that value again, and so its text is read back.

* `acceptAll_tokens`: where a value is awaited, its tokens put it there.
* `parse?_print`: a legible value is read back from its text.
* `loneHalves?_eq_none`: nothing in a legible value is half a pair.
-/

namespace Discourse.Json

/-! ## Tokens one after another -/

theorem acceptAll_cons {r r' : Reader} {t : Token} {ts : List Token} (h : r.accept t = some r') :
    r.acceptAll (t :: ts) = r'.acceptAll ts := by
  rw [Reader.acceptAll, h]

/-- A reader that awaits a value. -/
def Reader.AwaitsValue (r : Reader) : Prop := r.awaiting = .value ∨ r.awaiting = .itemOrEnd

theorem accept_eq_start {r : Reader} {t : Token} (h : r.AwaitsValue) (ht : t ≠ .listClose) :
    r.accept t = r.start t := by
  unfold Reader.accept
  rcases h with h | h
  · rw [h]
  · rw [h]
    cases t with
    | listClose => exact absurd rfl ht
    | _ => rfl

/-- Where a value is awaited, these tokens put it there. -/
def Puts (v : Json) (ts : List Token) : Prop :=
  ∀ (r : Reader) (rest : List Token), r.AwaitsValue →
    r.acceptAll (ts ++ rest) = (Reader.put v r.opened).acceptAll rest

theorem puts_plain (v : Json) : Puts v [.plain v] := by
  intro r rest hr
  exact acceptAll_cons (accept_eq_start hr (by simp))

theorem puts_text (t : Text) : Puts (.text t) [.text t] := by
  intro r rest hr
  exact acceptAll_cons (accept_eq_start hr (by simp))

/-! ## Lists -/

/-- The items after the first join those that are there. -/
theorem acceptAll_itemTokens {xs : List Json} (h : ∀ x ∈ xs, Puts x (tokens x))
    (items : List Json) (opened : List Open) (rest : List Token) :
    Reader.acceptAll { awaiting := .commaOrEnd, opened := .list items :: opened }
        (itemTokens xs ++ rest) =
      Reader.acceptAll { awaiting := .commaOrEnd, opened := .list (items ++ xs) :: opened }
        rest := by
  induction xs generalizing items with
  | nil => rw [List.append_nil]; rfl
  | cons x xs ih =>
    obtain ⟨hx, hxs⟩ := List.forall_mem_cons.mp h
    rw [itemTokens, List.cons_append, List.cons_append, acceptAll_cons rfl, List.append_assoc,
      hx _ _ (Or.inl rfl), Reader.put, ih hxs, List.append_assoc]
    rfl

theorem puts_list {items : List Json} (h : ∀ x ∈ items, Puts x (tokens x)) :
    Puts (.list items) (tokens (.list items)) := by
  intro r rest hr
  have hopen : r.accept .listOpen =
      some { awaiting := .itemOrEnd, opened := .list [] :: r.opened } :=
    accept_eq_start hr (by simp)
  cases items with
  | nil => exact (acceptAll_cons hopen).trans (acceptAll_cons rfl)
  | cons x xs =>
    obtain ⟨hx, hxs⟩ := List.forall_mem_cons.mp h
    simp only [tokens, List.cons_append, List.append_assoc]
    rw [acceptAll_cons hopen, hx _ _ (Or.inr rfl), Reader.put, acceptAll_itemTokens hxs]
    exact acceptAll_cons rfl

/-! ## Objects -/

/-- A name and a colon behind it. -/
theorem acceptAll_name {fields : List (Text × Json)} {name n : Text} {opened : List Open}
    {awaiting : Awaiting} {ts : List Token}
    (h : awaiting = .name ∨ awaiting = .nameOrEnd) :
    Reader.acceptAll { awaiting, opened := .object fields name :: opened }
        (.text n :: .colon :: ts) =
      Reader.acceptAll { awaiting := .value, opened := .object fields n :: opened } ts := by
  rcases h with rfl | rfl
  · rw [acceptAll_cons rfl, acceptAll_cons rfl]
  · rw [acceptAll_cons rfl, acceptAll_cons rfl]

/-- A field that is not there yet joins at the end. -/
theorem put_field {fields : List (Text × Json)} {n : Text} {x : Json} {opened : List Open}
    (h : n ∉ fields.map Prod.fst) :
    Reader.put x (.object fields n :: opened) =
      { awaiting := .commaOrEnd, opened := .object (fields ++ [(n, x)]) n :: opened } := by
  rw [Reader.put, setField_of_not_mem h]

/-- The fields after the first join those that are there, among which no name is repeated. -/
theorem acceptAll_fieldTokens {fs : List (Text × Json)} (h : ∀ f ∈ fs, Puts f.2 (tokens f.2))
    (fields : List (Text × Json)) (name : Text) (opened : List Open) (rest : List Token)
    (hnames : ((fields ++ fs).map Prod.fst).Nodup) :
    ∃ last, Reader.acceptAll
        { awaiting := .commaOrEnd, opened := .object fields name :: opened }
        (fieldTokens fs ++ rest) =
      Reader.acceptAll
        { awaiting := .commaOrEnd, opened := .object (fields ++ fs) last :: opened } rest := by
  induction fs generalizing fields name with
  | nil =>
    refine ⟨name, ?_⟩
    rw [List.append_nil]
    rfl
  | cons f fs ih =>
    obtain ⟨hf, hfs⟩ := List.forall_mem_cons.mp h
    obtain ⟨n, x⟩ := f
    have hnew : n ∉ fields.map Prod.fst := by
      rw [List.map_append, List.nodup_append] at hnames
      intro hn
      exact hnames.2.2 n hn n (by simp) rfl
    rw [List.append_cons] at hnames ⊢
    obtain ⟨last, hlast⟩ := ih hfs (fields ++ [(n, x)]) n hnames
    refine ⟨last, ?_⟩
    rw [← hlast]
    simp only [fieldTokens, List.cons_append, List.append_assoc]
    rw [acceptAll_cons rfl, acceptAll_name (Or.inl rfl), hf _ _ (Or.inl rfl), put_field hnew]

theorem puts_object {fields : List (Text × Json)} (hnames : (fields.map Prod.fst).Nodup)
    (h : ∀ f ∈ fields, Puts f.2 (tokens f.2)) :
    Puts (.object fields) (tokens (.object fields)) := by
  intro r rest hr
  have hopen : r.accept .objectOpen =
      some { awaiting := .nameOrEnd, opened := .object [] "" :: r.opened } :=
    accept_eq_start hr (by simp)
  cases fields with
  | nil => exact (acceptAll_cons hopen).trans (acceptAll_cons rfl)
  | cons f fs =>
    obtain ⟨hf, hfs⟩ := List.forall_mem_cons.mp h
    obtain ⟨n, x⟩ := f
    obtain ⟨last, hlast⟩ := acceptAll_fieldTokens hfs [(n, x)] n r.opened
      (.objectClose :: rest) hnames
    simp only [tokens, List.cons_append, List.append_assoc, List.nil_append]
    rw [acceptAll_cons hopen, acceptAll_name (Or.inr rfl), hf _ _ (Or.inl rfl),
      put_field (by simp), List.nil_append, hlast]
    exact acceptAll_cons rfl

/-! ## Values -/

/-- Where a value is awaited, the tokens of a legible value put it there. -/
theorem puts_tokens {v : Json} (h : v.IsLegible) : Puts v (tokens v) := by
  induction h with
  | null => exact puts_plain null
  | bool b => exact puts_plain (bool b)
  | @integer n _ => exact puts_plain (integer n)
  | @text t _ => exact puts_text t
  | list _ ih => exact puts_list ih
  | object _ hnames _ ih => exact puts_object hnames ih

theorem ofTokens?_tokens {v : Json} (h : v.IsLegible) : ofTokens? v.tokens = some v := by
  have hputs := puts_tokens h {} [] (Or.inl rfl)
  rw [List.append_nil] at hputs
  rw [ofTokens?, hputs]
  rfl

/-- A legible value is read back from its text. -/
theorem parse?_print {v : Json} (h : v.IsLegible) : parse? v.print = some v := by
  rw [parse?, tokens?_print h]
  exact ofTokens?_tokens h

/-! ## Halves of pairs -/

theorem loneHalvesOfItems?_eq_none {xs : List Json} (h : ∀ x ∈ xs, loneHalves? x = none) :
    loneHalvesOfItems? xs = none := by
  induction xs with
  | nil => rfl
  | cons x xs ih =>
    obtain ⟨hx, hxs⟩ := List.forall_mem_cons.mp h
    rw [loneHalvesOfItems?, hx, ih hxs]
    rfl

theorem loneHalvesOfFields?_eq_none {fs : List (Text × Json)}
    (hname : ∀ f ∈ fs, f.1.isWhole = true) (h : ∀ f ∈ fs, loneHalves? f.2 = none) :
    loneHalvesOfFields? fs = none := by
  induction fs with
  | nil => rfl
  | cons f fs ih =>
    obtain ⟨hf, hfs⟩ := List.forall_mem_cons.mp h
    obtain ⟨hn, hns⟩ := List.forall_mem_cons.mp hname
    rw [loneHalvesOfFields?, Text.loneHalves?_eq_none_iff.mpr hn, hf, ih hns hfs]
    rfl

/-- Nothing in a legible value is half a pair. -/
theorem loneHalves?_eq_none {v : Json} (h : v.IsLegible) : loneHalves? v = none := by
  induction h with
  | null | bool | integer => rfl
  | text h => exact Text.loneHalves?_eq_none_iff.mpr h
  | list _ ih => exact loneHalvesOfItems?_eq_none ih
  | object hname _ _ ih => exact loneHalvesOfFields?_eq_none hname ih

end Discourse.Json
