import Discourse.Text

/-!
# Texts that consist of characters

Texts are put together from characters and cut into pieces without giving rise to halves of pairs.

* `exists_ofChars`: a text without halves is the text of some characters.
* `ofString_inj`: different strings are different texts.
* `isWhole_append`, `isWhole_intercalate`, `isWhole_join`: longer texts.
-/

namespace Discourse.Text

theorem isWhole_iff {t : Text} : t.isWhole = true ↔ ∀ p ∈ t.points, p.isHalf = false := by
  simp [isWhole]

theorem exists_ofChars {t : Text} (h : t.isWhole = true) : ∃ cs, t = ofChars cs := by
  obtain ⟨ps⟩ := t
  rw [isWhole_iff] at h
  induction ps with
  | nil => exact ⟨[], rfl⟩
  | cons p ps ih =>
    obtain ⟨cs, hcs⟩ := ih fun q hq => h q (List.mem_cons_of_mem p hq)
    have hps : ps = cs.map .char := congrArg points hcs
    cases p with
    | char c => exact ⟨c :: cs, by rw [hps]; rfl⟩
    | half i => cases h _ List.mem_cons_self

/-- The text of a string has its characters and no others. -/
@[simp] theorem ofString_inj {s t : String} : ofString s = ofString t ↔ s = t := by
  constructor
  · intro h
    have hchars := congrArg chars h
    rw [ofString, ofString, chars_ofChars, chars_ofChars] at hchars
    exact String.toList_inj.mp hchars
  · rintro rfl
    rfl

theorem ofString_append (s t : String) : ofString (s ++ t) = ofString s ++ ofString t := by
  ext1
  simp [ofString]

@[simp] theorem isWhole_ofString (s : String) : (ofString s).isWhole = true := isWhole_ofChars _

@[simp] theorem isWhole_append (s t : Text) :
    (s ++ t).isWhole = (s.isWhole && t.isWhole) := by
  simp [isWhole]

/-! ## Texts one after another -/

theorem mem_intersperse {α : Type} {separator a : α} {as : List α}
    (h : a ∈ as.intersperse separator) : a = separator ∨ a ∈ as := by
  induction as with
  | nil => cases h
  | cons b as ih =>
    cases as with
    | nil => exact Or.inr h
    | cons c as =>
      rw [List.intersperse_cons_cons] at h
      rcases List.mem_cons.mp h with rfl | h
      · exact Or.inr List.mem_cons_self
      · rcases List.mem_cons.mp h with rfl | h
        · exact Or.inl rfl
        · exact (ih h).imp_right (List.mem_cons_of_mem b)

theorem isWhole_intercalate {separator : Text} {texts : List Text}
    (hs : separator.isWhole = true) (ht : ∀ t ∈ texts, t.isWhole = true) :
    (intercalate separator texts).isWhole = true := by
  rw [isWhole_iff] at hs ⊢
  intro p hp
  obtain ⟨ps, hps, hp⟩ := List.mem_flatten.mp hp
  rcases mem_intersperse hps with rfl | hps
  · exact hs p hp
  · obtain ⟨t, hmem, rfl⟩ := List.mem_map.mp hps
    exact isWhole_iff.mp (ht t hmem) p hp

theorem isWhole_join {texts : List Text} (h : ∀ t ∈ texts, t.isWhole = true) :
    (join texts).isWhole = true := by
  rw [isWhole_iff]
  intro p hp
  obtain ⟨t, ht, hp⟩ := List.mem_flatMap.mp hp
  exact isWhole_iff.mp (h t ht) p hp

end Discourse.Text
