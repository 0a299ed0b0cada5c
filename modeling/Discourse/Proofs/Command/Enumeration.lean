import Discourse.Proofs.Command.Spelling
import Mathlib.Data.List.Infix

/-!
# Lists of sentences in a line

A list of clean sentences is read as these sentences, whichever separators and brackets are used.
Its text is kept by a group that is as short as possible, and cannot end earlier than the list does:
it ends with a character that is no blank, no bracket and no period, and the sign of an inference
does not occur in it.

* `Spelling.Enumeration.sentencesOf_body`: the sentences of the list.
* `Spelling.Enumeration.isTrimmed_body`, `Spelling.Enumeration.noSign_body`, …: the text of the
  list.
* `Grammar.fits?_sentences`: the list in a form.
-/

namespace Discourse

open Text (AllBlank Spacing)
open Pattern (text sequence group few Stops)

namespace Spelling

variable {s : String} {cs : List Char}

/-! ## Clean sentences -/

theorem Clean.toList_ne_nil (h : Clean s) : s.toList ≠ [] := Spelling.toList_ne_nil h.nonempty

theorem Clean.isTrimmed (h : Clean s) : Text.IsTrimmed Text.isBlank s.toList :=
  isTrimmed_of_trim_eq h.trimmed

theorem not_isListMark_of_blank {c : Char} (h : Text.isBlank c = true) : isListMark c = false := by
  refine Bool.eq_false_iff.mpr fun hmark => ?_
  simp only [isListMark, Bool.or_eq_true, beq_iff_eq] at hmark
  rcases hmark with rfl | rfl <;> cases h

theorem Clean.not_isListMark (h : Clean s) : ∀ c ∈ s.toList, isListMark c = false := by
  intro c hc
  refine Bool.eq_false_iff.mpr fun hmark => ?_
  simp only [isListMark, Bool.or_eq_true, beq_iff_eq] at hmark
  rcases hmark with rfl | rfl
  · exact h.noMark ',' (by simp) hc
  · exact h.noMark ';' (by simp) hc

/-! ## The sign of an inference -/

/-- The sign of an inference does not occur. -/
def NoSign (cs : List Char) : Prop := ¬ ['|', '-'] <:+: cs

/-- Characters that do not begin the sign. -/
theorem noSign_append {front : List Char} (hfront : '|' ∉ front) (h : NoSign cs) :
    NoSign (front ++ cs) := by
  induction front with
  | nil => exact h
  | cons c front ih =>
    rw [List.mem_cons, not_or] at hfront
    intro hinfix
    rcases List.infix_cons_iff.mp hinfix with hstart | hinfix
    · exact hfront.1 (List.cons_prefix_cons.mp hstart).1
    · exact ih hfront.2 hinfix

/-- The sign does not reach over a place where something else than its second half comes. -/
theorem NoSign.append {rest : List Char} (h : NoSign cs) (hrest : NoSign rest)
    (hhead : rest.head? ≠ some '-') : NoSign (cs ++ rest) := by
  intro hinfix
  rcases List.infix_append_iff.mp hinfix with hinfix | hinfix | ⟨first, second, he, hend, hstart⟩
  · exact h hinfix
  · exact hrest hinfix
  · match first, second, he with
    | [], _, rfl => exact hrest hstart.isInfix
    | [_], _, rfl =>
      obtain ⟨tail, rfl⟩ := hstart
      exact hhead rfl
    | [_, _], _, rfl => exact h hend.isInfix

/-! ## The text of a list -/

namespace Enumeration

/-- What follows the first sentence of a list. -/
def follow (rest : List (Separator × String)) : List Char :=
  rest.flatMap fun (separator, s) => separator.chars ++ s.toList

theorem follow_cons (separator : Separator) (s : String) (rest : List (Separator × String)) :
    follow ((separator, s) :: rest) =
      separator.before.chars ++ (if separator.semicolon then ';' else ',') ::
        (separator.after.chars ++ (s.toList ++ follow rest)) := by
  simp [follow, Separator.chars]

variable {first : String} {rest : List (Separator × String)} {w : Enumeration}

theorem isListMark_of_separator (semicolon : Bool) :
    isListMark (if semicolon then ';' else ',') = true := by
  cases semicolon <;> decide

theorem strip_piece (lead : Gap) (h : Clean s) {after : List Char} (hafter : AllBlank after) :
    String.ofList (Text.stripChars Text.isBlank (lead.chars ++ (s.toList ++ after))) = s := by
  rw [Text.stripChars_append lead.blank hafter h.isTrimmed, String.ofList_toList]

theorem splitWhere_piece (lead : Gap) (h : Clean s) {after : List Char} (hafter : AllBlank after) :
    Text.splitWhere isListMark (lead.chars ++ (s.toList ++ after)) =
      [lead.chars ++ (s.toList ++ after)] := by
  refine Text.splitWhere_of_none ?_
  simp only [List.forall_mem_append]
  exact ⟨fun c hc => not_isListMark_of_blank (lead.blank c hc), h.not_isListMark,
    fun c hc => not_isListMark_of_blank (hafter c hc)⟩

/-- The sentences between the marks, without the blanks around them. -/
theorem pieces_follow (lead : Gap) (hfirst : Clean first)
    (hrest : ∀ s ∈ rest.map Prod.snd, Clean s) :
    (Text.splitWhere isListMark (lead.chars ++ (first.toList ++ follow rest))).map
        (fun piece => String.ofList (Text.stripChars Text.isBlank piece)) =
      first :: rest.map Prod.snd := by
  induction rest generalizing lead first with
  | nil =>
    rw [follow, List.flatMap_nil, splitWhere_piece lead hfirst Text.allBlank_nil,
      List.map_singleton, strip_piece lead hfirst Text.allBlank_nil]
    rfl
  | cons x rest ih =>
    obtain ⟨separator, s⟩ := x
    obtain ⟨hs, hrest⟩ := List.forall_mem_cons.mp hrest
    have hline : lead.chars ++ (first.toList ++ follow ((separator, s) :: rest)) =
        (lead.chars ++ (first.toList ++ separator.before.chars)) ++
          (if separator.semicolon then ';' else ',') ::
            (separator.after.chars ++ (s.toList ++ follow rest)) := by
      rw [follow_cons]
      simp only [List.append_assoc]
    rw [hline, Text.splitWhere_append_cons (isListMark_of_separator separator.semicolon),
      splitWhere_piece lead hfirst separator.before.blank, List.map_append, List.map_singleton,
      strip_piece lead hfirst separator.before.blank, ih separator.after hs hrest]
    rfl

theorem body_eq (w : Enumeration) : w.body = w.first.toList ++ follow w.rest := rfl

/-- The sentences of a list, as they are read. -/
theorem sentencesOf_body (h : ∀ s ∈ w.items, Clean s) :
    sentencesOf (String.ofList w.body) = w.items.map Text.ofString := by
  obtain ⟨hfirst, hrest⟩ := List.forall_mem_cons.mp h
  have hpieces := pieces_follow {} hfirst hrest
  rw [List.nil_append] at hpieces
  rw [sentencesOf, String.toList_ofList, body_eq, items, ← hpieces, List.map_map]
  rfl

/-! ### Its characters -/

theorem body_ne_nil (h : Clean w.first) : w.body ≠ [] := by
  simp [body_eq, h.toList_ne_nil]

/-- What does not occur in the sentences, is no blank and no mark of a list does not occur. -/
theorem not_mem_body {c : Char} (hitems : ∀ s ∈ w.items, c ∉ s.toList)
    (hblank : Text.isBlank c = false) (hmark : isListMark c = false) : c ∉ w.body := by
  obtain ⟨hfirst, hrest⟩ := List.forall_mem_cons.mp hitems
  have hgap : ∀ gap : Gap, c ∉ gap.chars := fun gap hc => by
    rw [gap.blank c hc] at hblank
    cases hblank
  have hseparator : ∀ semicolon : Bool, c ≠ if semicolon then ';' else ',' := by
    rintro semicolon rfl
    rw [isListMark_of_separator] at hmark
    cases hmark
  rw [body_eq, List.mem_append, not_or]
  refine ⟨hfirst, fun hc => ?_⟩
  obtain ⟨⟨separator, s⟩, hmem, hc⟩ := List.mem_flatMap.mp hc
  simp only [Separator.chars, List.mem_append, List.mem_cons] at hc
  rcases hc with (hc | hc | hc) | hc
  · exact hgap _ hc
  · exact hseparator _ hc
  · exact hgap _ hc
  · exact hrest s (List.mem_map.mpr ⟨_, hmem, rfl⟩) hc

/-- A list ends with the last character of one of its sentences. -/
theorem exists_getLast?_body (h : ∀ s ∈ w.items, s.toList ≠ []) :
    ∃ s ∈ w.items, w.body.getLast? = s.toList.getLast? := by
  have hfollow : ∀ (rest : List (Separator × String)) (first : String),
      (∀ s ∈ first :: rest.map Prod.snd, s.toList ≠ []) →
      ∃ s ∈ first :: rest.map Prod.snd,
        (first.toList ++ follow rest).getLast? = s.toList.getLast? := by
    intro rest
    induction rest with
    | nil => exact fun first _ => ⟨first, by simp, by simp [follow]⟩
    | cons x rest ih =>
      intro first hall
      obtain ⟨s, hs, hlast⟩ := ih x.2 (List.forall_mem_cons.mp hall).2
      have hne : x.2.toList ++ follow rest ≠ [] := by
        simp [(List.forall_mem_cons.mp (List.forall_mem_cons.mp hall).2).1]
      refine ⟨s, List.mem_cons_of_mem first hs, ?_⟩
      rw [follow_cons x.1 x.2, ← hlast]
      have hsplit : first.toList ++ (x.1.before.chars ++ (if x.1.semicolon then ';' else ',') ::
          (x.1.after.chars ++ (x.2.toList ++ follow rest))) =
          (first.toList ++ (x.1.before.chars ++ (if x.1.semicolon then ';' else ',') ::
            x.1.after.chars)) ++ (x.2.toList ++ follow rest) := by
        simp
      rw [hsplit, List.getLast?_append_of_ne_nil _ hne]
  exact hfollow w.rest w.first h

theorem isTrimmed_body (h : ∀ s ∈ w.items, Clean s) : Text.IsTrimmed Text.isBlank w.body := by
  have hfirst := (List.forall_mem_cons.mp h).1
  obtain ⟨c, cs, hcs⟩ := List.exists_cons_of_ne_nil hfirst.toList_ne_nil
  obtain ⟨s, hs, hlast⟩ := exists_getLast?_body fun s hs => (h s hs).toList_ne_nil
  refine ⟨fun d hd => hfirst.isTrimmed.1 d ?_, fun d hd => (h s hs).isTrimmed.2 d (hlast ▸ hd)⟩
  rw [body_eq, hcs] at hd
  rw [hcs]
  exact hd

/-- The sign of an inference does not occur in a list. -/
theorem noSign_body (h : ∀ s ∈ w.items, Clean s) : NoSign w.body := by
  have hgap : ∀ gap : Gap, '|' ∉ gap.chars := fun gap hc => absurd (gap.blank _ hc) (by decide)
  have hdash : ∀ gap : Gap, '-' ∉ gap.chars := fun gap hc => absurd (gap.blank _ hc) (by decide)
  have hfollow : ∀ (rest : List (Separator × String)) (first : String),
      (∀ s ∈ first :: rest.map Prod.snd, Clean s) → NoSign (first.toList ++ follow rest) := by
    intro rest
    induction rest with
    | nil =>
      intro first hall
      have hfirst := (List.forall_mem_cons.mp hall).1
      rw [follow, List.flatMap_nil, List.append_nil]
      exact hfirst.noSign
    | cons x rest ih =>
      intro first hall
      obtain ⟨hfirst, hall⟩ := List.forall_mem_cons.mp hall
      have hmark : ∀ c ∈ ['|', '-'], c ≠ if x.1.semicolon then ';' else ',' := by
        cases x.1.semicolon <;> simp
      have hfront : '|' ∉ x.1.before.chars ++ (if x.1.semicolon then ';' else ',') ::
          x.1.after.chars := by
        simp [hgap, hmark '|']
      have hnext := noSign_append hfront (ih x.2 hall)
      rw [follow_cons x.1 x.2]
      refine NoSign.append hfirst.noSign (by simpa using hnext) fun hhead => ?_
      cases hbefore : x.1.before.chars with
      | nil =>
        rw [hbefore] at hhead
        exact hmark '-' (by simp) (Option.some.inj hhead).symm
      | cons c before =>
        rw [hbefore] at hhead
        exact hdash x.1.before (by rw [hbefore, Option.some.inj hhead]; simp)
  exact hfollow w.rest w.first h

/-- Whatever is left of a list ends with a character that is no blank, no bracket and no period. -/
theorem exists_mem_of_body_eq (h : ∀ s ∈ w.items, Clean s) {earlier later : List Char}
    (hsplit : w.body = earlier ++ later) (hne : later ≠ []) :
    ∃ c ∈ later, Text.isBlank c = false ∧ c ∉ [']', '}', '.'] := by
  obtain ⟨s, hs, hlast⟩ := exists_getLast?_body fun s hs => (h s hs).toList_ne_nil
  rw [hsplit, List.getLast?_append_of_ne_nil _ hne] at hlast
  obtain ⟨c, hc⟩ := Option.isSome_iff_exists.mp (List.getLast?_isSome.mpr hne)
  refine ⟨c, List.mem_of_mem_getLast? hc, (h s hs).isTrimmed.2 c (hlast ▸ hc), fun hmark => ?_⟩
  have hmem : c ∈ s.toList := List.mem_of_mem_getLast? (hlast ▸ hc)
  exact (h s hs).noMark c (by revert hmark; simp; tauto) hmem

end Enumeration

end Spelling

/-! ## The list in a form -/

namespace Grammar

open Spelling (Enumeration Clean)

variable {parts : List Pattern} {kept : List String} {blanks after rest cs : List Char}
  {w : Enumeration}

/-- The beginning of a list in brackets or without. -/
theorem fits?_opening (w : Enumeration) (hblanks : Spacing blanks) (hblank : Stops .blank rest)
    (hmark : Stops (.oneOf ['[', '{']) rest) (h : (sequence parts).fits? rest = some kept) :
    (sequence (space :: optionalMark ['[', '{'] :: gap :: parts)).fits?
      (blanks ++ (w.brackets.left ++ (w.inner.chars ++ rest))) = some kept := by
  have hgap : ∀ {run}, AllBlank run → (sequence (gap :: parts)).fits? (run ++ rest) = some kept :=
    fun hrun => fits?_gap hrun hblank h
  cases w.brackets with
  | bare =>
    have hall : Spacing (blanks ++ w.inner.chars) :=
      ⟨by simp [hblanks.1], List.forall_mem_append.mpr ⟨hblanks.2, w.inner.blank⟩⟩
    have hfits := fits?_space hall hblank
      (fits?_optionalMark_of_stops hmark (hgap Text.allBlank_nil))
    rwa [List.append_assoc] at hfits
  | square =>
    exact fits?_space hblanks (Pattern.stops_cons (by decide))
      (fits?_optionalMark_cons (by decide) (hgap w.inner.blank))
  | curly =>
    exact fits?_space hblanks (Pattern.stops_cons (by decide))
      (fits?_optionalMark_cons (by decide) (hgap w.inner.blank))

/-- The end of a list in brackets or without. -/
theorem fits?_closing (w : Enumeration) (hafter : AllBlank after) (hblank : Stops .blank rest)
    (hmark : Stops (.oneOf [']', '}']) rest) (h : (sequence parts).fits? rest = some kept) :
    (sequence (gap :: optionalMark [']', '}'] :: gap :: parts)).fits?
      (w.outer.chars ++ (w.brackets.right ++ (after ++ rest))) = some kept := by
  have hgap := fits?_gap hafter hblank h
  cases w.brackets with
  | bare =>
    have hall : AllBlank (w.outer.chars ++ after) :=
      List.forall_mem_append.mpr ⟨w.outer.blank, hafter⟩
    have hnone : (sequence (gap :: parts)).fits? ([] ++ rest) = some kept :=
      fits?_gap Text.allBlank_nil hblank h
    have hfits := fits?_gap hall hblank (fits?_optionalMark_of_stops hmark hnone)
    rwa [List.append_assoc] at hfits
  | square =>
    exact fits?_gap w.outer.blank (Pattern.stops_cons (by decide))
      (fits?_optionalMark_cons (by decide) hgap)
  | curly =>
    exact fits?_gap w.outer.blank (Pattern.stops_cons (by decide))
      (fits?_optionalMark_cons (by decide) hgap)

/-- What may stand between a list and what comes next: blanks and brackets. -/
theorem exists_closing_of_reads
    (h : (sequence (gap :: optionalMark [']', '}'] :: gap :: parts)).Reads cs) :
    ∃ closing rest, cs = closing ++ rest ∧
      (∀ c ∈ closing, Text.isBlank c = true ∨ c ∈ [']', '}']) ∧
      (sequence parts).Reads rest := by
  obtain ⟨before, run, rfl, hbefore, hrun⟩ := Pattern.reads_sequence_cons.mp h
  obtain ⟨mark, run, rfl, hmark, hrun⟩ := Pattern.reads_sequence_cons.mp hrun
  obtain ⟨after, rest, rfl, hafter, hrest⟩ := Pattern.reads_sequence_cons.mp hrun
  refine ⟨before ++ (mark ++ after), rest, by simp, ?_, hrest⟩
  simp only [List.forall_mem_append]
  refine ⟨fun c hc => Or.inl (reads_gap.mp hbefore c hc), fun c hc => Or.inr ?_,
    fun c hc => Or.inl (reads_gap.mp hafter c hc)⟩
  rcases Pattern.reads_maybe.mp hmark with hone | rfl
  · obtain ⟨d, rfl, hd⟩ := Pattern.reads_one.mp hone
    rw [List.mem_singleton.mp hc]
    exact List.contains_iff_mem.mp hd
  · cases hc

/-- The sign of an inference is not found before the end of the list. -/
theorem not_reads_sign (hclean : ∀ s ∈ w.items, Clean s) {earlier later : List Char}
    (hsplit : w.body = earlier ++ later) (hne : later ≠ []) (hhead : rest.head? ≠ some '-') :
    ¬ (sequence (gap :: optionalMark [']', '}'] :: gap :: text "|-" :: parts)).Reads
      (later ++ rest) := by
  intro hreads
  obtain ⟨closing, run, hrun, hclosing, hreads⟩ := exists_closing_of_reads hreads
  obtain ⟨sign, tail, rfl, hsign, -⟩ := Pattern.reads_sequence_cons.mp hreads
  obtain ⟨c, hc, hblank, hmark⟩ := Enumeration.exists_mem_of_body_eq hclean hsplit hne
  have hoff : c ∉ closing := fun hmem => by
    rcases hclosing c hmem with hb | hb
    · rw [hblank] at hb
      cases hb
    · exact hmark (by revert hb; simp; tauto)
  rw [Pattern.reads_text.mp hsign] at hrun
  -- What is left of the list reaches beyond the blanks and brackets, so it has a part of the sign.
  rcases List.append_eq_append_iff.mp hrun with ⟨front, rfl, -⟩ | ⟨front, rfl, hfront⟩
  · exact hoff (List.mem_append_left _ hc)
  · match front, hfront with
    | [], _ => exact hoff (by simpa using hc)
    | [d], hfront =>
      have hrest : '-' :: tail = rest := (List.cons.inj hfront).2
      exact hhead (by rw [← hrest]; rfl)
    | d :: e :: front, hfront =>
      refine Enumeration.noSign_body hclean ?_
      have hd : '|' = d := (List.cons.inj hfront).1
      have he : '-' = e := (List.cons.inj (List.cons.inj hfront).2).1
      exact ⟨earlier ++ closing, front, by rw [hsplit, ← hd, ← he]; simp⟩

/-- The end of the line is not found before the end of the list. -/
theorem not_reads_sentenceEnd (hclean : ∀ s ∈ w.items, Clean s) {earlier later : List Char}
    (hsplit : w.body = earlier ++ later) (hne : later ≠ []) :
    ¬ (sequence [gap, optionalMark [']', '}'], gap, sentenceEnd]).Reads (later ++ rest) := by
  intro hreads
  obtain ⟨closing, run, hrun, hclosing, hreads⟩ := exists_closing_of_reads hreads
  obtain ⟨c, hc, hblank, hmark⟩ := Enumeration.exists_mem_of_body_eq hclean hsplit hne
  have hmem : c ∈ closing ++ run := hrun ▸ List.mem_append_left rest hc
  simp only [List.mem_cons, List.not_mem_nil, or_false, not_or] at hmark
  rcases List.mem_append.mp hmem with hmem | hmem
  · rcases hclosing c hmem with hb | hb
    · rw [hblank] at hb
      cases hb
    · simp [hmark] at hb
  · rcases forall_mem_of_reads_sentenceEnd hreads c hmem with hb | hb
    · rw [hblank] at hb
      cases hb
    · exact hmark.2.2 hb

/-- A list of sentences after blanks. -/
theorem fits?_sentences (hblanks : Spacing blanks) (hclean : ∀ s ∈ w.items, Clean s)
    (hafter : AllBlank after) (hblank : Stops .blank rest) (hmark : Stops (.oneOf [']', '}']) rest)
    (hearlier : ∀ earlier later, w.body = earlier ++ later → earlier ≠ [] → later ≠ [] →
      ¬ (sequence (gap :: optionalMark [']', '}'] :: gap :: parts)).Reads
        (later ++ (w.outer.chars ++ (w.brackets.right ++ (after ++ rest)))))
    (h : (sequence parts).fits? rest = some kept) :
    (sequence (space :: sentences :: gap :: parts)).fits? (blanks ++ (w.chars ++ (after ++ rest))) =
      some (String.ofList w.body :: kept) := by
  have hfirst := (List.forall_mem_cons.mp hclean).1
  have hne : w.body ≠ [] := Enumeration.body_ne_nil hfirst
  obtain ⟨c, cs, hcs⟩ := List.exists_cons_of_ne_nil hne
  have hstops : ∀ tail, Stops .blank (w.body ++ tail) := fun tail => by
    rw [hcs]
    exact Pattern.stops_cons ((Enumeration.isTrimmed_body hclean).1 c (by rw [hcs]; rfl))
  have hmarks : ['[', ']', '{', '}'].Sublist [',', ';', '[', ']', '{', '}', '.'] := by decide
  have hleft : ['[', '{'].Sublist ['[', ']', '{', '}'] := by decide
  have hbracket : ∀ c ∈ ['[', ']', '{', '}'], Text.isBlank c = false ∧ isListMark c = false := by
    simp only [List.forall_mem_cons]
    exact ⟨by decide, by decide, by decide, by decide, by simp⟩
  have hnot : ∀ c ∈ ['[', ']', '{', '}'], c ∉ w.body := fun c hc =>
    Enumeration.not_mem_body (fun s hs => (hclean s hs).noMark c (hmarks.subset hc))
      (hbracket c hc).1 (hbracket c hc).2
  have hopen : ∀ tail, Stops (.oneOf ['[', '{']) (w.body ++ tail) := fun tail =>
    Pattern.stops_append hne fun d hd => Bool.eq_false_iff.mpr fun hmark =>
      hnot d (hleft.subset (List.contains_iff_mem.mp hmark)) hd
  have hrun : ∀ d ∈ w.body, (CharClass.noneOf [']', '}']).has d = true := fun d hd => by
    have hd' := fun e he => ne_of_mem_of_not_mem hd (hnot e he)
    simp [CharClass.has, hd']
  have hlist : (sequence (group (few (.noneOf [']', '}'])) :: gap :: optionalMark [']', '}'] ::
      gap :: parts)).fits? (w.body ++ (w.outer.chars ++ (w.brackets.right ++ (after ++ rest)))) =
      some (String.ofList w.body :: kept) :=
    Pattern.fits?_seq_group_few hne hrun hearlier (fits?_closing w hafter hblank hmark h)
  have hfits := fits?_opening w hblanks (hstops _) (hopen _) hlist
  have hparts : (sequence (space :: sentences :: gap :: parts)).fits?
        (blanks ++ (w.chars ++ (after ++ rest))) =
      (sequence (space :: optionalMark ['[', '{'] :: gap :: group (few (.noneOf [']', '}'])) ::
        gap :: optionalMark [']', '}'] :: gap :: parts)).fits?
          (blanks ++ (w.chars ++ (after ++ rest))) :=
    Pattern.fits?_seq_congr fun _ => Pattern.fits?_sequence_sequence
  rw [hparts]
  simpa only [Enumeration.chars, List.append_assoc] using hfits

end Grammar

end Discourse
