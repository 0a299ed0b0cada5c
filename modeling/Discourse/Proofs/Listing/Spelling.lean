import Discourse.Command.Spelling
import Discourse.Listing
import Discourse.Proofs.OrderedSet.Equality
import Discourse.Proofs.Text.Whole
import Mathlib.Data.Set.List

/-!
# A rule as it is shown

A rule is shown in a spelling of its own: the sentences in braces and with commas, in the order in
which they joined. Rules are equal when they are about the same sentences, whatever the order.

* `OrderedSet.ofList_beq_ofList`: the order and the number of the sentences do not matter.
* `Listing.set_ofString`: a list in braces is a spelling.
* `Spelling.ShownAsWritten`: every rule is shown in a spelling of it.
-/

namespace Discourse

/-! ## Equal rules -/

theorem OrderedSet.ofList_beq_ofList {items others : List Sentence}
    (h : ∀ s, s ∈ items ↔ s ∈ others) : (ofList items == ofList others) = true :=
  beq_iff.mpr fun s => by simp [h]

theorem Inference.ofPremises_beq_ofPremises {premises others : List Sentence}
    {conclusion : Sentence}
    (h : ∀ s, s ∈ premises ↔ s ∈ others) :
    (ofPremises premises conclusion == ofPremises others conclusion) = true := by
  rw [beq_def, Bool.and_eq_true]
  exact ⟨OrderedSet.ofList_beq_ofList h, BEq.rfl⟩

/-! ## A list in braces -/

theorem Text.ofChars_append (cs ds : List Char) : ofChars (cs ++ ds) = ofChars cs ++ ofChars ds :=
  Text.ext (List.map_append ..)

theorem Text.intercalate_ofString (separator first : String) (rest : List String) :
    intercalate separator ((first :: rest).map ofString) =
      ofChars (first.toList ++ rest.flatMap fun s => separator.toList ++ s.toList) := by
  induction rest generalizing first with
  | nil => simp [intercalate, ofString, ofChars]
  | cons s rest ih =>
    have hrest := congrArg points (ih s)
    simp only [intercalate, List.map_cons] at hrest
    apply Text.ext
    rw [intercalate, List.map_cons, List.map_cons, List.map_cons, List.map_cons,
      List.intercalate_cons_cons, hrest, List.flatMap_cons]
    simp [ofString]

namespace Listing

open Spelling (Enumeration InferenceText SetText)

/-- A list is shown in a spelling. -/
theorem set_ofString (first : String) (rest : List String) :
    set ((first :: rest).map Text.ofString) =
      Text.ofChars (Enumeration.shown first rest).chars := by
  have hbody : (Enumeration.shown first rest).body =
      first.toList ++ rest.flatMap fun s => ", ".toList ++ s.toList := by
    rw [Enumeration.body, Enumeration.shown, List.flatMap_map]
    rfl
  have hchars : (Enumeration.shown first rest).chars =
      "\x7b".toList ++ ((Enumeration.shown first rest).body ++ "\x7d".toList) := rfl
  rw [hchars, hbody, Text.ofChars_append, Text.ofChars_append, ← Text.intercalate_ofString]
  exact Text.ext (List.append_assoc ..)

/-- An inference is shown in a spelling. -/
theorem inference_ofString (first : String) (rest : List String) (conclusion : String)
    {i : Inference} (hpremises : i.premises.toList = (first :: rest).map Text.ofString)
    (hconclusion : i.conclusion = conclusion) :
    inference i =
      Text.ofChars (InferenceText.chars { premises := .shown first rest, conclusion }) := by
  have hsign : "|-".toList = ['|', '-'] := by decide
  rw [inference, hpremises, hconclusion, set_ofString, InferenceText.chars, Text.ofChars_append]
  refine Text.ext ?_
  simp [Text.ofString, Spelling.optional, hsign]

end Listing

/-! ## Every rule -/

/-- Sentences that are all written come from a list of what is written. -/
theorem exists_map_ofString {texts : List Sentence} {sentences : List String}
    (h : ∀ t, t ∈ texts ↔ ∃ s ∈ sentences, Text.ofString s = t) :
    ∃ items : List String, texts = items.map Text.ofString ∧ ∀ s, s ∈ items ↔ s ∈ sentences := by
  have hrange : texts ∈ Set.range (List.map Text.ofString) := by
    rw [Set.range_list_map]
    exact fun t ht => (h t).mp ht |>.imp fun _ hs => hs.2
  obtain ⟨items, rfl⟩ := hrange
  refine ⟨items, rfl, fun s => ?_⟩
  have hs := h (.ofString s)
  simpa using hs

namespace Spelling

/-- Every rule is shown in a spelling of it, in whatever order its sentences have joined. -/
structure ShownAsWritten : Prop where
  inference : ∀ {premises : List String} {conclusion : String} {i : Inference}, premises ≠ [] →
    (i == .ofPremises (premises.map Text.ofString) conclusion) = true →
    ∃ w : InferenceText, w.Says premises conclusion ∧ Listing.inference i = Text.ofChars w.chars
  incompatibility : ∀ {sentences : List String} {s : Incompatibility}, sentences ≠ [] →
    (s == .ofList (sentences.map Text.ofString)) = true →
    ∃ w : SetText, w.Says sentences ∧ Listing.set s.toList = Text.ofChars w.chars

/-- A set of written sentences is a list of them. -/
theorem exists_items_of_beq {sentences : List String} {s : OrderedSet Sentence}
    (hne : sentences ≠ []) (h : (s == .ofList (sentences.map Text.ofString)) = true) :
    ∃ first rest, s.toList = (first :: rest).map Text.ofString ∧
      ∀ t, t ∈ (Enumeration.shown first rest).items ↔ t ∈ sentences := by
  have hmem : ∀ t, t ∈ s.toList ↔ ∃ w ∈ sentences, Text.ofString w = t := fun t => by
    rw [← OrderedSet.mem_iff_mem_toList, OrderedSet.beq_iff.mp h t]
    simp
  obtain ⟨items, hitems, hsame⟩ := exists_map_ofString hmem
  obtain ⟨w, ws, rfl⟩ := List.exists_cons_of_ne_nil hne
  obtain ⟨first, rest, rfl⟩ := List.exists_cons_of_ne_nil
    (List.ne_nil_of_mem ((hsame w).mpr List.mem_cons_self))
  refine ⟨first, rest, hitems, fun t => ?_⟩
  rw [← hsame t, Enumeration.items, Enumeration.shown, List.map_map]
  simp

theorem shownAsWritten : ShownAsWritten where
  inference := by
    intro premises conclusion i hne h
    simp only [Inference.beq_def, Bool.and_eq_true, beq_iff_eq] at h
    obtain ⟨first, rest, hlist, hsame⟩ := exists_items_of_beq hne h.1
    exact ⟨{ premises := .shown first rest, conclusion }, ⟨hsame, rfl⟩,
      Listing.inference_ofString first rest conclusion hlist h.2⟩
  incompatibility := by
    intro sentences s hne h
    obtain ⟨first, rest, hlist, hsame⟩ := exists_items_of_beq hne h
    refine ⟨{ sentences := .shown first rest }, hsame, ?_⟩
    rw [hlist, Listing.set_ofString, SetText.chars, optional, if_neg (by simp), List.append_nil]

end Spelling

end Discourse
