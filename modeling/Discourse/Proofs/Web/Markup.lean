import Discourse.Proofs.Text.Markup
import Discourse.Proofs.Text.Whole
import Discourse.Web.Page

/-!
# The markup of pages

A page has the markup that it has with nothing said, and the transcript has a pair of markers for
each entry besides. So whoever reads the page knows where one text ends and the next begins.

* `markup`, `occurrences`: what a page has of markup, and how often a marker stands in it.
* `occurrences_append`: no marker stands across the end of a row that is not inside a marker.
* `markup_entry`, `occurrences_entry`: one entry.
* `entries_injective`: the entries from what is between the markers.
* `nothing_is_forged`: both pages.
-/

namespace Discourse.Web.Page

open Text (isMarkup escape isMarkup_of_mem_escape filter_escape escape_injective)

/-- The angle brackets and quotes of a text in their order. -/
def markup (t : Text) : List CodePoint := t.points.filter isMarkup

/-- The braces of a text in their order. -/
def braces (t : Text) : List CodePoint :=
  t.points.filter fun p => p ∈ [CodePoint.char '{', .char '}']

/-- At how many places of a row a pattern begins. -/
def occurrences (pattern ps : List CodePoint) : Nat := ps.tails.countP pattern.isPrefixOf

/-- The entries one after another. -/
def entries (es : List Exchange) : List CodePoint := es.flatMap fun e => (entry e).points

/-- What stands around the input of an entry. -/
def markers : List Text := ["<b>", "</b>"]

/-! ## How often a marker stands in a row -/

section Occurrences

variable {p : CodePoint} {pattern ps : List CodePoint}

theorem occurrences_cons (pattern : List CodePoint) (p : CodePoint) (ps : List CodePoint) :
    occurrences pattern (p :: ps) =
      occurrences pattern ps + if pattern.isPrefixOf (p :: ps) then 1 else 0 := by
  rw [occurrences, List.tails_cons, List.countP_cons]
  rfl

theorem occurrences_append_of_not_mem (hp : pattern.head? = some p) (h : p ∉ ps)
    (qs : List CodePoint) : occurrences pattern (ps ++ qs) = occurrences pattern qs := by
  obtain ⟨pattern, rfl⟩ := List.head?_eq_some_iff.mp hp
  induction ps with
  | nil => rfl
  | cons q ps ih =>
    obtain ⟨hq, hps⟩ := List.ne_and_not_mem_of_not_mem_cons h
    have hfront : (p :: pattern).isPrefixOf (q :: (ps ++ qs)) = false := by
      rw [List.isPrefixOf_cons_cons, beq_false_of_ne hq, Bool.false_and]
    rw [List.cons_append, occurrences_cons, ih hps, hfront]
    rfl

/-- A row that ends where the pattern does not go on. -/
def Bars (pattern ps : List CodePoint) : Prop := ∀ p ∈ ps.getLast?, p ∉ pattern.dropLast

instance : Decidable (Bars pattern ps) :=
  inferInstanceAs (Decidable (∀ p ∈ ps.getLast?, p ∉ pattern.dropLast))

theorem Bars.prefix_append_iff (h : Bars pattern ps) (hne : ps ≠ []) (qs : List CodePoint) :
    pattern <+: ps ++ qs ↔ pattern <+: ps := by
  refine ⟨fun hlong => ?_, fun hshort => hshort.trans (List.prefix_append ps qs)⟩
  rcases List.prefix_or_prefix_of_prefix hlong (List.prefix_append _ _) with hshort | ⟨more, rfl⟩
  · exact hshort
  · cases more using List.reverseRecOn with
    | nil => rw [List.append_nil]
    | append_singleton more q =>
      refine absurd ?_ (h (ps.getLast hne) (List.getLast_mem_getLast? hne))
      rw [← List.append_assoc, List.dropLast_concat]
      exact List.mem_append_left more (List.getLast_mem hne)

theorem occurrences_append (hpattern : pattern ≠ []) (h : Bars pattern ps) (qs : List CodePoint) :
    occurrences pattern (ps ++ qs) = occurrences pattern ps + occurrences pattern qs := by
  induction ps with
  | nil =>
    obtain ⟨p, pattern, rfl⟩ := List.exists_cons_of_ne_nil hpattern
    exact (Nat.zero_add _).symm
  | cons p ps ih =>
    have hfront : pattern.isPrefixOf (p :: (ps ++ qs)) = pattern.isPrefixOf (p :: ps) := by
      rw [Bool.eq_iff_iff, List.isPrefixOf_iff_prefix, List.isPrefixOf_iff_prefix]
      exact h.prefix_append_iff (List.cons_ne_nil p ps) qs
    rw [List.cons_append, occurrences_cons, occurrences_cons, hfront,
      ih fun q hq => h q (List.mem_getLast?_cons hq)]
    omega

end Occurrences

/-! ## One entry -/

theorem not_mem_escape {p : CodePoint} (h : isMarkup p = true) (t : Text) :
    p ∉ (escape t).points := by
  intro hp
  rw [isMarkup_of_mem_escape hp] at h
  cases h

theorem markup_escape (t : Text) : markup (escape t) = [] :=
  List.filter_eq_nil_iff.mpr fun _ hp hmark => not_mem_escape hmark t hp

theorem markup_append (s t : Text) : markup (s ++ t) = markup s ++ markup t :=
  List.filter_append _ _

theorem braces_append (s t : Text) : braces (s ++ t) = braces s ++ braces t :=
  List.filter_append _ _

theorem markup_entry (e : Exchange) : markup (entry e) = markup "<b></b>" := by
  have hmarks : markup "\n<b>" ++ markup "</b>\n\n" ++ markup "\n" = markup "<b></b>" := by
    decide +kernel
  rw [entry, markup_append, markup_append, markup_append, markup_append, markup_escape,
    markup_escape, List.append_nil, List.append_nil, hmarks]

theorem markup_entries (es : List Exchange) :
    (entries es).filter isMarkup = es.flatMap fun _ => markup "<b></b>" := by
  rw [entries, List.filter_flatMap]
  exact congrArg es.flatMap (funext markup_entry)

theorem occurrences_entry {marker : Text} (h : marker ∈ markers) (e : Exchange)
    (ps : List CodePoint) :
    occurrences marker.points ((entry e).points ++ ps) = occurrences marker.points ps + 1 := by
  have hmarkers : ∀ marker ∈ markers, marker.points ≠ [] ∧ marker.points.head? = some (.char '<') ∧
      Bars marker.points (Text.ofString "\n<b>").points ∧
      Bars marker.points (Text.ofString "</b>\n\n").points ∧
      Bars marker.points (Text.ofString "\n").points ∧
      occurrences marker.points (Text.ofString "\n<b>").points +
        occurrences marker.points (Text.ofString "</b>\n\n").points +
        occurrences marker.points (Text.ofString "\n").points = 1 := by
    decide +kernel
  obtain ⟨hne, hhead, hopen, hclose, hend, hone⟩ := hmarkers marker h
  have hplain : ∀ t qs, occurrences marker.points ((escape t).points ++ qs) =
      occurrences marker.points qs :=
    fun t => occurrences_append_of_not_mem hhead (not_mem_escape rfl t)
  rw [entry]
  simp only [Text.points_append, List.append_assoc]
  rw [occurrences_append hne hopen, hplain, occurrences_append hne hclose, hplain,
    occurrences_append hne hend]
  omega

theorem occurrences_entries {marker : Text} (h : marker ∈ markers) (es : List Exchange)
    (ps : List CodePoint) :
    occurrences marker.points (entries es ++ ps) =
      occurrences marker.points ps + es.length := by
  induction es with
  | nil => rfl
  | cons e es ih =>
    rw [entries, List.flatMap_cons, List.append_assoc, occurrences_entry h, ← entries, ih,
      List.length_cons, Nat.add_assoc]

/-! ## From a page to what was said -/

/-- There is one first mark. -/
theorem append_cons_inj {α : Type} {a : α} {before before' after after' : List α}
    (h : a ∉ before) (h' : a ∉ before') (heq : before ++ a :: after = before' ++ a :: after') :
    before = before' ∧ after = after' := by
  induction before generalizing before' with
  | nil =>
    cases before' with
    | nil => exact ⟨rfl, (List.cons.inj heq).2⟩
    | cons b before' => exact absurd (List.cons.inj heq).1 (List.ne_of_not_mem_cons h')
  | cons b before ih =>
    cases before' with
    | nil => exact absurd (List.cons.inj heq).1.symm (List.ne_of_not_mem_cons h)
    | cons b' before' =>
      obtain ⟨rfl, hrest⟩ := List.cons.inj heq
      obtain ⟨rfl, hafter⟩ :=
        ih (List.not_mem_of_not_mem_cons h) (List.not_mem_of_not_mem_cons h') hrest
      exact ⟨rfl, hafter⟩

theorem entries_cons (e : Exchange) (es : List Exchange) :
    entries (e :: es) = .char '\n' :: .char '<' :: ((Text.ofString "b>").points ++
      ((escape e.input).points ++ .char '<' :: ((Text.ofString "/b>\n\n").points ++
        ((escape e.output).points ++ .char '\n' :: entries es)))) := by
  rw [entries, List.flatMap_cons, entry]
  simp only [Text.points_append, List.append_assoc]
  rfl

/-- A line break belongs to the answer unless it is the last one of all or one of the last two
before a bracket. -/
theorem answer_append_inj {s t : Text} {es fs : List Exchange}
    (h : (escape s).points ++ .char '\n' :: entries es =
      (escape t).points ++ .char '\n' :: entries fs) : s = t ∧ entries es = entries fs := by
  have hescape : ∀ t, CodePoint.char '<' ∉ (escape t).points := not_mem_escape rfl
  have hless : ∀ (t : Text) (es : List Exchange),
      .char '<' ∈ (escape t).points ++ .char '\n' :: entries es ↔ es ≠ [] := by
    intro t es
    cases es with
    | nil => simp [entries, hescape]
    | cons e es => simp [entries_cons]
  cases es with
  | nil =>
    have hfs : fs = [] := by
      by_contra hne
      exact (hless s []).mp (h ▸ (hless t fs).mpr hne) rfl
    subst hfs
    exact ⟨escape_injective (Text.ext (List.append_cancel_right h)), rfl⟩
  | cons e es =>
    cases fs with
    | nil =>
      exact absurd rfl ((hless t []).mp (h ▸ (hless s (e :: es)).mpr (List.cons_ne_nil e es)))
    | cons f fs =>
      have hbreaks : ∀ t, CodePoint.char '<' ∉ (escape t).points ++ [.char '\n', .char '\n'] := by
        simp [hescape]
      rw [entries_cons, entries_cons] at h ⊢
      obtain ⟨hanswer, hrest⟩ := append_cons_inj (hbreaks s) (hbreaks t) (by
        rw [List.append_assoc, List.append_assoc]
        exact h)
      exact ⟨escape_injective (Text.ext (List.append_cancel_right hanswer)), by rw [hrest]⟩

theorem entries_injective : Function.Injective entries := by
  intro es
  induction es with
  | nil =>
    rintro (_ | ⟨f, fs⟩) h
    · rfl
    · rw [entries_cons] at h
      cases h
  | cons e es ih =>
    rintro (_ | ⟨f, fs⟩) h
    · rw [entries_cons] at h
      cases h
    · rw [entries_cons, entries_cons] at h
      obtain ⟨hinput, hrest⟩ := append_cons_inj (not_mem_escape rfl e.input)
        (not_mem_escape rfl f.input) (List.append_cancel_left (List.cons.inj (List.cons.inj h).2).2)
      obtain ⟨houtput, hentries⟩ := answer_append_inj (List.append_cancel_left hrest)
      have he : e = f := by
        cases e
        cases f
        rw [Exchange.mk.injEq]
        exact ⟨escape_injective (Text.ext hinput), houtput⟩
      rw [he, ih hentries]

theorem points_transcript (es : List Exchange) :
    (transcript es).points = (Text.ofString transcriptHead).points ++
      (entries es ++ (Text.ofString transcriptFoot).points) := by
  simp only [transcript, Text.points_append, List.append_assoc, Text.join, List.flatMap_map]
  rfl

theorem transcript_injective : Function.Injective transcript := by
  intro es fs h
  have hpoints := congrArg Text.points h
  rw [points_transcript, points_transcript] at hpoints
  exact entries_injective (List.append_cancel_right (List.append_cancel_left hpoints))

theorem answer_injective : Function.Injective answer := by
  intro s t h
  have hpoints := congrArg Text.points h
  exact escape_injective (Text.ext
    (List.append_cancel_left (List.append_cancel_right hpoints)))

theorem markup_transcript (es : List Exchange) :
    markup (transcript es) =
      markup transcriptHead ++ es.flatMap (fun _ => markup "<b></b>") ++ markup transcriptFoot := by
  rw [markup, points_transcript, List.filter_append, List.filter_append, ← List.append_assoc,
    markup_entries]
  rfl

theorem occurrences_transcript {marker : Text} (h : marker ∈ markers) (es : List Exchange) :
    occurrences marker.points (transcript es).points = es.length := by
  have htemplate : ∀ marker ∈ markers, marker.points ≠ [] ∧
      Bars marker.points (Text.ofString transcriptHead).points ∧
      occurrences marker.points (Text.ofString transcriptHead).points = 0 ∧
      occurrences marker.points (Text.ofString transcriptFoot).points = 0 := by
    -- line by line, since a long string takes long to be read
    unfold transcriptHead transcriptFoot
    simp only [Text.ofString_append, Text.points_append, -String.reduceAppend]
    decide +kernel
  obtain ⟨hne, hbars, hhead, hfoot⟩ := htemplate marker h
  rw [points_transcript, occurrences_append hne hbars, occurrences_entries h, hhead, hfoot,
    Nat.zero_add, Nat.zero_add]

theorem markup_answer (t : Text) : markup (answer t) = markup answerHead ++ markup answerFoot := by
  rw [answer, markup_append, markup_append, markup_escape, List.append_nil]

theorem braces_answer (t : Text) : braces (answer t) = braces t := by
  have hhead : braces answerHead = [] := by
    unfold answerHead
    simp only [Text.ofString_append, braces_append, -String.reduceAppend]
    decide +kernel
  have hfoot : braces answerFoot = [] := by decide +kernel
  rw [answer, braces_append, braces_append, hhead, hfoot, List.append_nil]
  exact filter_escape (by decide +kernel) t

/-- Whatever was said, a page has its own markup and no other, and nothing that was said is lost or
taken for something else. -/
theorem nothing_is_forged :
    (∀ es : List Exchange,
      markup (transcript es) =
        markup transcriptHead ++ es.flatMap (fun _ => markup "<b></b>") ++ markup transcriptFoot ∧
      occurrences (Text.ofString "<b>").points (transcript es).points = es.length ∧
      occurrences (Text.ofString "</b>").points (transcript es).points = es.length) ∧
    Function.Injective transcript ∧
    (∀ t, markup (answer t) = markup answerHead ++ markup answerFoot ∧
      braces (answer t) = braces t) ∧
    Function.Injective answer := by
  have hopen : (Text.ofString "<b>") ∈ markers := List.mem_cons_self
  have hclose : (Text.ofString "</b>") ∈ markers := List.mem_cons_of_mem _ List.mem_cons_self
  refine ⟨fun es => ⟨markup_transcript es, ?_, ?_⟩, transcript_injective, fun t => ⟨?_, ?_⟩,
    answer_injective⟩
  · exact occurrences_transcript hopen es
  · exact occurrences_transcript hclose es
  · exact markup_answer t
  · exact braces_answer t

end Discourse.Web.Page
