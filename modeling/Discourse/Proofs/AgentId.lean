import Discourse.AgentId
import Discourse.Proofs.Text.Hexadecimal

/-!
# Reading back an identifier

An identifier is written with 32 hexadecimal digits, so one of 128 bits is read back from its
text.

* `AgentId.IsProper`: the identifiers of 128 bits.
* `AgentId.read?_text`: these are read back.
-/

namespace Discourse.AgentId

/-- The number fits into the 128 bits of an identifier. -/
def IsProper (id : AgentId) : Prop := id.number < 2 ^ 128

instance (id : AgentId) : Decidable id.IsProper := inferInstanceAs (Decidable (_ < _))

/-- Groups of 8, 4, 4, 4 and 12 digits give the number of all digits together. -/
theorem readGroups?_groups {a b c d e : List Char} (ha : a.length = 8) (hb : b.length = 4)
    (hc : c.length = 4) (hd : d.length = 4) (he : e.length = 12) :
    readGroups? (a ++ '-' :: b ++ '-' :: c ++ '-' :: d ++ '-' :: e) =
      (Text.hexNumber? (a ++ b ++ c ++ d ++ e)).map .mk := by
  have hdrop : ∀ {xs : List Char} {n : Nat}, xs.length = n → ∀ k, n ≤ k → xs.drop k = [] :=
    fun h k hk => List.drop_of_length_le (h ▸ hk)
  simp [readGroups?, List.drop_append, ha, hb, hc, hd, he, hdrop ha, hdrop hb, hdrop hc]

theorem text_eq (id : AgentId) : ∃ a b c d e : List Char,
    a.length = 8 ∧ b.length = 4 ∧ c.length = 4 ∧ d.length = 4 ∧ e.length = 12 ∧
      a ++ b ++ c ++ d ++ e = Text.hexDigits 32 id.number ∧
      id.text.toList = a ++ '-' :: b ++ '-' :: c ++ '-' :: d ++ '-' :: e := by
  have hlen := Text.length_hexDigits 32 id.number
  refine ⟨(Text.hexDigits 32 id.number).take 8, ((Text.hexDigits 32 id.number).drop 8).take 4,
    ((Text.hexDigits 32 id.number).drop 12).take 4, ((Text.hexDigits 32 id.number).drop 16).take 4,
    (Text.hexDigits 32 id.number).drop 20, ?_⟩
  simp [text, hlen, ← List.take_add, List.length_take]

theorem read?_text {id : AgentId} (h : id.IsProper) : read? id.text = some id := by
  obtain ⟨a, b, c, d, e, ha, hb, hc, hd, he, hdigits, htext⟩ := text_eq id
  have hlen : id.text.toList.length = 36 := by simp [htext, ha, hb, hc, hd, he]
  have hnumber : id.number % 16 ^ 32 = id.number := Nat.mod_eq_of_lt h
  rw [read?, hlen, if_neg (by decide), if_pos rfl, htext, readGroups?_groups ha hb hc hd he,
    hdigits, Text.hexNumber?_hexDigits, hnumber]
  rfl

end Discourse.AgentId
