import Discourse.Json.Printer
import Discourse.Proofs.Json.Legible
import Discourse.Proofs.Text.Whole

/-!
# Reading back tokens

The tokens of a written value are told apart again. A mark or a text is complete by itself; a word
is complete when what comes next ends it, and after each word of a written value stands a mark or
nothing.

* `lex_writeText`: a text that consists of characters is read back.
* `lex_chars`: so is each token of a legible value, with any characters before and behind it.
* `tokens?_print`: the tokens of a legible value are those that were written.
-/

namespace Discourse.Json

/-! ## Code points inside a text -/

theorem lex_cons_of_step {mode mode' : Mode} {read ts : List Token} {c : Char} {cs : List Char}
    (h : step mode c = some (mode', ts)) :
    lex mode read (c :: cs) = lex mode' (ts.reverse ++ read) cs := by
  rw [lex, h]

/-- Hexadecimal digits, as many as are due, complete the number of a code point. -/
theorem lex_inCode {ns : List Nat} {read : List Token} {rest : List Char} (digits : List Char)
    {value n : Nat} (hne : digits ≠ [])
    (h : digits.foldlM (fun n c => (Text.hexValue? c).map (16 * n + ·)) value = some n) :
    lex (.inCode ns digits.length value) read (digits ++ rest) =
      lex (.inText (n :: ns)) read rest := by
  induction digits generalizing value with
  | nil => exact absurd rfl hne
  | cons c digits ih =>
    rw [List.foldlM_cons, Option.bind_eq_bind, Option.bind_eq_some_iff] at h
    obtain ⟨v, hv, h⟩ := h
    obtain ⟨d, hd, rfl⟩ := Option.map_eq_some_iff.mp hv
    rw [List.cons_append]
    cases digits with
    | nil =>
      cases h
      have hstep : step (.inCode ns 1 value) c = some (.inText ((16 * value + d) :: ns), []) := by
        simp [step, hd]
      exact lex_cons_of_step hstep
    | cons c' digits =>
      have hstep : step (.inCode ns (digits.length + 2) value) c =
          some (.inCode ns (digits.length + 1) (16 * value + d), []) := by
        simp [step, hd]
      exact (lex_cons_of_step hstep).trans (ih (List.cons_ne_nil _ _) h)

theorem lex_escapedNumber {ns : List Nat} {read : List Token} {rest : List Char} {n : Nat}
    (h : n < 16 ^ 4) :
    lex (.inText ns) read ('\\' :: 'u' :: Text.hexDigits 4 n ++ rest) =
      lex (.inText (n :: ns)) read rest := by
  have hdigits := Text.hexNumber?_hexDigits 4 n
  have hlen := Text.length_hexDigits 4 n
  rw [Nat.mod_eq_of_lt h] at hdigits
  have hne : Text.hexDigits 4 n ≠ [] := List.ne_nil_of_length_eq_add_one hlen
  have hcode : lex (.inCode ns (Text.hexDigits 4 n).length 0) read (Text.hexDigits 4 n ++ rest) =
      lex (.inText (n :: ns)) read rest := lex_inCode _ hne hdigits
  rw [hlen] at hcode
  exact hcode

theorem lex_escaped {ns : List Nat} {read : List Token} {rest : List Char} {c d : Char}
    (hc : c ≠ 'u') (h : escaped? c = some d) :
    lex (.inText ns) read ('\\' :: c :: rest) = lex (.inText (d.toNat :: ns)) read rest := by
  have hstep : step (.afterBackslash ns) c = some (.inText (d.toNat :: ns), []) := by
    simp [step, hc, h]
  exact lex_cons_of_step hstep

theorem lex_writeChar (c : Char) {ns : List Nat} {read : List Token} {rest : List Char} :
    lex (.inText ns) read (writeChar c ++ rest) = lex (.inText (c.toNat :: ns)) read rest := by
  unfold writeChar
  split
  next h =>
    rcases Bool.or_eq_true_iff.mp h with h | h <;> rw [eq_of_beq h]
    · exact lex_escaped (by decide) rfl
    · exact lex_escaped (by decide) rfl
  next h =>
    have hquote : (c == '"') = false := by simp_all
    have hback : (c == '\\') = false := by simp_all
    split
    next h => rw [eq_of_beq h]; exact lex_escaped (by decide) rfl
    split
    next h => rw [eq_of_beq h]; exact lex_escaped (by decide) rfl
    split
    next h => rw [eq_of_beq h]; exact lex_escaped (by decide) rfl
    split
    next h => exact lex_escapedNumber (Nat.lt_of_lt_of_le h (by decide))
    next h =>
      have hstep : step (.inText ns) c = some (.inText (c.toNat :: ns), []) := by
        simp only [step, hquote, hback, h, Bool.false_eq_true, if_false]
      exact lex_cons_of_step hstep

theorem lex_flatMap_writeChar (cs : List Char) {ns : List Nat} {read : List Token}
    {rest : List Char} :
    lex (.inText ns) read (cs.flatMap writeChar ++ rest) =
      lex (.inText ((cs.map Char.toNat).reverse ++ ns)) read rest := by
  induction cs generalizing ns with
  | nil => rfl
  | cons c cs ih =>
    rw [List.flatMap_cons, List.append_assoc, lex_writeChar, ih, List.map_cons, List.reverse_cons,
      List.append_assoc]
    rfl

/-! ## Texts -/

theorem not_isHighHalf (c : Char) : CodePoint.isHighHalf c.toNat = false := by
  have hv : c.toNat.isValidChar := c.valid
  unfold Nat.isValidChar at hv
  simp only [CodePoint.isHighHalf, Bool.and_eq_false_iff, decide_eq_false_iff_not]
  omega

/-- The numbers of characters make no pair. -/
theorem pointsOf_map_toNat (cs : List Char) :
    pointsOf (cs.map Char.toNat) = cs.map CodePoint.char := by
  have hchar : ∀ c : Char, CodePoint.ofNumber c.toNat = .char c :=
    fun c => CodePoint.ofNumber_number (.char c)
  induction cs with
  | nil => rfl
  | cons c cs ih =>
    cases cs with
    | nil => simp [pointsOf, hchar]
    | cons d cs =>
      rw [List.map_cons, List.map_cons] at ih
      rw [List.map_cons, List.map_cons, pointsOf, not_isHighHalf, ih, hchar]
      rfl

/-- A text that consists of characters is read back. -/
theorem lex_writeText {t : Text} (h : t.isWhole = true) {read : List Token} {rest : List Char} :
    lex .between read (writeText t ++ rest) = lex .between (.text t :: read) rest := by
  obtain ⟨cs, rfl⟩ := Text.exists_ofChars h
  have hpoints : (Text.ofChars cs).points.flatMap writePoint = cs.flatMap writeChar := by
    rw [Text.points_ofChars, List.flatMap_map]
    rfl
  have hclose : step (.inText (cs.map Char.toNat).reverse) '"' =
      some (.between, [.text (Text.ofChars cs)]) := by
    rw [step, List.reverse_reverse, pointsOf_map_toNat]
    rfl
  have hopen : step .between '"' = some (.inText [], []) := rfl
  rw [writeText, hpoints, List.cons_append, List.cons_append, List.append_assoc,
    lex_cons_of_step hopen, lex_flatMap_writeChar, List.append_nil]
  exact lex_cons_of_step hclose

/-! ## Words -/

/-- A word is complete before these characters: there are none, or the first one ends it. -/
def EndsWords (rest : List Char) : Prop := ∀ c ∈ rest.head?, endsWord c = true

theorem lex_inWord {cs rest : List Char} {v : Json} {read : List Token}
    (h : readWord? cs.reverse = some v) (hrest : EndsWords rest) :
    lex (.inWord cs) read rest = lex .between (.plain v :: read) rest := by
  cases rest with
  | nil => simp [lex, finish, h]
  | cons c rest =>
    have hc : endsWord c = true := hrest c rfl
    have hstep : step (.inWord cs) c = some ((begin c).1, .plain v :: (begin c).2) := by
      rw [step, if_pos hc, h]
      rfl
    have hbegin : step .between c = some ((begin c).1, (begin c).2) := rfl
    rw [lex_cons_of_step hstep, lex_cons_of_step hbegin, List.reverse_cons, List.append_assoc]
    rfl

theorem lex_insideWord {cs word rest : List Char} {read : List Token}
    (h : ∀ c ∈ cs, endsWord c = false) :
    lex (.inWord word) read (cs ++ rest) = lex (.inWord (cs.reverse ++ word)) read rest := by
  induction cs generalizing word with
  | nil => rfl
  | cons c cs ih =>
    have hstep : step (.inWord word) c = some (.inWord (c :: word), []) := by
      rw [step, h c List.mem_cons_self]
      rfl
    rw [List.cons_append, lex_cons_of_step hstep, List.reverse_nil, List.nil_append,
      ih fun d hd => h d (List.mem_cons_of_mem c hd), List.reverse_cons, List.append_assoc]
    rfl

theorem begin_of_endsWord_eq_false {c : Char} (h : endsWord c = false) :
    begin c = (.inWord [c], []) := by
  simp only [endsWord, Bool.or_eq_false_iff, Option.isSome_eq_false_iff,
    Option.isNone_iff_eq_none] at h
  simp [begin, h]

/-- A word that means a value is read as that value. -/
theorem lex_word {cs rest : List Char} {v : Json} {read : List Token} (h : Spells cs v)
    (hrest : EndsWords rest) :
    lex .between read (cs ++ rest) = lex .between (.plain v :: read) rest := by
  obtain ⟨c, cs, rfl⟩ := List.exists_cons_of_ne_nil h.ne_nil
  have hinside := List.forall_mem_cons.mp h.inside
  have hbegin : step .between c = some (.inWord [c], []) :=
    congrArg some (begin_of_endsWord_eq_false hinside.1)
  have hmeans : readWord? (cs.reverse ++ [c]).reverse = some v := by
    rw [List.reverse_append, List.reverse_reverse]
    exact h.means
  rw [List.cons_append, lex_cons_of_step hbegin, lex_insideWord hinside.2]
  exact lex_inWord hmeans hrest

/-! ## Rows of tokens -/

/-- Whatever comes before, the tokens are read back when what comes next ends a word. -/
def Lexes (ts : List Token) : Prop :=
  ∀ (read : List Token) (rest : List Char), EndsWords rest →
    lex .between read (ts.flatMap Token.chars ++ rest) = lex .between (ts.reverse ++ read) rest

/-- The token is read back whatever comes before and behind it. -/
def StandsAlone (t : Token) : Prop :=
  ∀ (read : List Token) (rest : List Char),
    lex .between read (t.chars ++ rest) = lex .between (t :: read) rest

/-- A word is complete before these tokens. -/
def Separates (ts : List Token) : Prop :=
  ∀ rest : List Char, EndsWords rest → EndsWords (ts.flatMap Token.chars ++ rest)

theorem lexes_nil : Lexes [] := fun _ _ _ => rfl

theorem separates_nil : Separates [] := fun _ h => h

theorem Lexes.cons {t : Token} {ts : List Token} (ht : StandsAlone t) (h : Lexes ts) :
    Lexes (t :: ts) := by
  intro read rest hrest
  rw [List.flatMap_cons, List.append_assoc, ht, h _ rest hrest, List.reverse_cons,
    List.append_assoc]
  rfl

theorem Lexes.append {ts us : List Token} (ht : Lexes ts) (hu : Lexes us) (hs : Separates us) :
    Lexes (ts ++ us) := by
  intro read rest hrest
  rw [List.flatMap_append, List.append_assoc, ht read _ (hs rest hrest), hu _ rest hrest,
    List.reverse_append, List.append_assoc]

theorem lexes_plain {v : Json} (h : Spells (writePlain v) v) : Lexes [.plain v] := by
  intro read rest hrest
  rw [List.flatMap_singleton]
  exact lex_word h hrest

theorem standsAlone_text {t : Text} (h : t.isWhole = true) : StandsAlone (.text t) :=
  fun _ _ => lex_writeText h

theorem standsAlone_of_mark {c : Char} {t : Token} (h : mark? c = some t) : StandsAlone t := by
  unfold mark? at h
  split at h <;> cases h <;> exact fun _ _ => rfl

/-! ## Values -/

theorem separates_itemTokens (xs : List Json) : Separates (itemTokens xs) := by
  cases xs with
  | nil => exact separates_nil
  | cons x xs =>
    rintro rest - c ⟨⟩
    rfl

theorem separates_fieldTokens (fs : List (Text × Json)) : Separates (fieldTokens fs) := by
  cases fs with
  | nil => exact separates_nil
  | cons f fs =>
    rintro rest - c ⟨⟩
    rfl

theorem separates_close {t : Token} {c : Char} (h : mark? c = some t) : Separates [t] := by
  unfold mark? at h
  split at h <;> cases h <;>
    · rintro rest - c ⟨⟩
      rfl

theorem lexes_itemTokens {xs : List Json} (h : ∀ x ∈ xs, Lexes (tokens x)) :
    Lexes (itemTokens xs) := by
  induction xs with
  | nil => exact lexes_nil
  | cons x xs ih =>
    obtain ⟨hx, hxs⟩ := List.forall_mem_cons.mp h
    rw [itemTokens, List.cons_append]
    exact (hx.append (ih hxs) (separates_itemTokens xs)).cons
      (standsAlone_of_mark (c := ',') rfl)

/-- A field is written as its name, a colon and its value. -/
theorem lexes_field {name : Text} {ts : List Token} (hname : name.isWhole = true)
    (h : Lexes ts) : Lexes (.text name :: .colon :: ts) :=
  (h.cons (standsAlone_of_mark (c := ':') rfl)).cons (standsAlone_text hname)

theorem lexes_fieldTokens {fs : List (Text × Json)} (hname : ∀ f ∈ fs, f.1.isWhole = true)
    (h : ∀ f ∈ fs, Lexes (tokens f.2)) : Lexes (fieldTokens fs) := by
  induction fs with
  | nil => exact lexes_nil
  | cons f fs ih =>
    obtain ⟨hf, hfs⟩ := List.forall_mem_cons.mp h
    obtain ⟨hn, hns⟩ := List.forall_mem_cons.mp hname
    have hvalue := hf.append (ih hns hfs) (separates_fieldTokens fs)
    exact (lexes_field hn hvalue).cons (standsAlone_of_mark (c := ',') rfl)

/-- The tokens of a legible value are read back. -/
theorem lexes_tokens {v : Json} (h : v.IsLegible) : Lexes (tokens v) := by
  induction h with
  | null => exact lexes_plain spells_null
  | bool b => exact lexes_plain (spells_bool b)
  | integer h => exact lexes_plain (spells_integer h)
  | text h => exact lexes_nil.cons (standsAlone_text h)
  | @list items _ ih =>
    have hclose : Lexes [.listClose] := lexes_nil.cons (standsAlone_of_mark (c := ']') rfl)
    have hopen : StandsAlone .listOpen := standsAlone_of_mark (c := '[') rfl
    cases items with
    | nil => exact hclose.cons hopen
    | cons x xs =>
      obtain ⟨hx, hxs⟩ := List.forall_mem_cons.mp ih
      have hitems := hx.append (lexes_itemTokens hxs) (separates_itemTokens xs)
      exact (hitems.append hclose (separates_close (c := ']') rfl)).cons hopen
  | @object fields hname _ _ ih =>
    have hclose : Lexes [.objectClose] :=
      lexes_nil.cons (standsAlone_of_mark (c := '}') rfl)
    have hopen : StandsAlone .objectOpen := standsAlone_of_mark (c := '{') rfl
    cases fields with
    | nil => exact hclose.cons hopen
    | cons f fs =>
      obtain ⟨hf, hfs⟩ := List.forall_mem_cons.mp ih
      obtain ⟨hn, hns⟩ := List.forall_mem_cons.mp hname
      have hfields := hf.append (lexes_fieldTokens hns hfs) (separates_fieldTokens fs)
      have hrest := hfields.append hclose (separates_close (c := '}') rfl)
      exact (lexes_field hn hrest).cons hopen

/-- The tokens of the text of a legible value are those of the value. -/
theorem tokens?_print {v : Json} (h : v.IsLegible) : tokens? v.print = some v.tokens := by
  have hlex := lexes_tokens h [] [] (by rintro c ⟨⟩)
  rw [List.append_nil, List.append_nil] at hlex
  rw [tokens?, print, String.toList_ofList, hlex, lex, finish, List.reverse_reverse]
  exact congrArg some (List.append_nil _)

end Discourse.Json
