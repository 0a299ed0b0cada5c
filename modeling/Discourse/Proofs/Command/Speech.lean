import Discourse.Proofs.Command.Spelling

/-!
# Saying something about a sentence

However an assertion or a disavowal is written, it is the same command: the first form that reads
the line is that of its verb, and of the sentence the double quotes and the blanks around it are
gone.

* `Spelling.Speech.opens`: how the line opens.
* `Spelling.Speech.sentenceOf_written`: the sentence that is read.
* `Command.parse?_asserts`, `Command.parse?_disavows`: what the line asks for.
-/

namespace Discourse

open Text (AllBlank Solid)
open Pattern (sequence)

namespace Spelling

variable {speaker verb sentence : String}

/-! ## The line in parts -/

/-- The sentence as it is written, with its quotes. -/
def Speech.written (w : Speech) (sentence : String) : List Char :=
  optional '"' w.quoted ++ (sentence.toList ++ optional '"' w.quoted)

theorem Speech.toList_line (w : Speech) (speaker verb sentence : String) :
    (w.line speaker verb sentence).toList =
      w.lead.chars ++ (speaker.toList ++ (w.afterName.chars ++ (verb.toList ++
        (optional ':' w.colon ++ (w.afterVerb.chars ++ (w.written sentence ++
          (optional '.' w.period ++ w.trail.chars))))))) := by
  simp only [Speech.line, Speech.written, String.toList_ofList, List.append_assoc]

theorem Sayable.toList_ne_nil (h : Sayable sentence) : sentence.toList ≠ [] :=
  Spelling.toList_ne_nil h.nonempty

theorem Sayable.isTrimmed (h : Sayable sentence) :
    Text.IsTrimmed Text.isBlank sentence.toList := isTrimmed_of_trim_eq h.trimmed

/-- The sentence begins with a character that is no blank. -/
theorem Speech.exists_cons_written (w : Speech) (h : Sayable sentence) :
    ∃ c cs, w.written sentence = c :: cs ∧ Text.isBlank c = false := by
  cases hquoted : w.quoted with
  | true => exact ⟨'"', _, by rw [written, hquoted]; rfl, by decide⟩
  | false =>
    obtain ⟨c, cs, hcs⟩ := List.exists_cons_of_ne_nil h.toList_ne_nil
    refine ⟨c, cs, ?_, h.isTrimmed.1 c (by rw [hcs]; rfl)⟩
    rw [written, hquoted, hcs]
    simp [optional]

theorem Speech.noPeriod_written (w : Speech) (h : Sayable sentence) :
    '.' ∉ w.written sentence := by
  have hquote : '.' ∉ optional '"' w.quoted := by cases w.quoted <;> simp [optional]
  simp [written, hquote, h.noPeriod]

/-- The quotes and the blanks around the sentence are gone. -/
theorem Speech.sentenceOf_written (w : Speech) (h : Sayable sentence) {blanks : List Char}
    (hblanks : AllBlank blanks) :
    sentenceOf (String.ofList (w.written sentence ++ blanks)) = sentence := by
  have hquote : (optional '"' w.quoted).filter (· != '"') = [] := by
    cases w.quoted <;> rfl
  have hsentence := filter_ne_quote h.noQuote
  have hrest := filter_ne_quote (hblanks.not_mem (by decide : Text.isBlank '"' = false))
  have hstrip := Text.stripChars_append Text.allBlank_nil hblanks h.isTrimmed
  rw [List.nil_append] at hstrip
  rw [sentenceOf, removeQuotes, String.toList_ofList, written]
  simp only [List.filter_append, hquote, hsentence, hrest, List.nil_append, List.append_nil,
    Text.trim, String.toList_ofList, hstrip, String.ofList_toList]

/-! ## The forms that read the line -/

theorem Speech.opens (w : Speech) (hname : IsName speaker) (hverb : Solid verb.toList)
    (hsentence : Sayable sentence) :
    ∃ third, Grammar.Opens (w.line speaker verb sentence) speaker.toList
      (verb.toList ++ optional ':' w.colon) third := by
  have hcolon : Solid (verb.toList ++ optional ':' w.colon) := by
    cases w.colon with
    | false => simpa [optional] using hverb
    | true => exact hverb.append (by decide)
  obtain ⟨c, cs, hwritten, hc⟩ := w.exists_cons_written hsentence
  have hfirst : Solid [c] := ⟨by simp, by simpa using hc⟩
  obtain ⟨tail, rest, hwords⟩ :=
    Text.exists_words_solid_append hfirst (cs ++ (optional '.' w.period ++ w.trail.chars))
  refine ⟨[c] ++ tail, rest, ?_⟩
  rw [toList_line, Text.words_blanks_append w.lead.allBlank,
    Text.words_solid_spacing hname.solid w.afterName.spacing, ← List.append_assoc verb.toList,
    Text.words_solid_spacing hcolon w.afterVerb.spacing, hwritten, ← hwords]
  rfl

/-- The form of the verb reads the speaker and the sentence. -/
theorem Speech.match?_speechForm (w : Speech) (hname : IsName speaker)
    (hverb : Solid verb.toList) (hsentence : Sayable sentence)
    {c : String → Sentence → Command} :
    ∃ said, sentenceOf said = sentence ∧
      (Grammar.speechForm verb c).pattern.match? (w.line speaker verb sentence) =
        some [speaker, said] := by
  obtain ⟨d, cs, hwritten, hd⟩ := w.exists_cons_written hsentence
  have hne : w.written sentence ≠ [] := by simp [hwritten]
  have hstops : Pattern.Stops .blank
      (w.written sentence ++ (optional '.' w.period ++ w.trail.chars)) := by
    rw [hwritten]
    exact Pattern.stops_cons hd
  have hcolon : Pattern.Stops (.oneOf [':']) (w.afterVerb.chars ++
      (w.written sentence ++ (optional '.' w.period ++ w.trail.chars))) :=
    Pattern.stops_append w.afterVerb.nonempty fun c hc =>
      Bool.eq_false_iff.mpr fun hmark => by
        rw [List.mem_singleton.mp (List.contains_iff_mem.mp hmark)] at hc
        exact absurd (w.afterVerb.blank _ hc) (by decide)
  have hend : (sequence [Grammar.sentence, Grammar.sentenceEnd]).fits?
      (w.written sentence ++ (optional '.' w.period ++ w.trail.chars)) = some [_] :=
    Grammar.fits?_sentence hne (w.noPeriod_written hsentence) w.trail.allBlank
  refine ⟨String.ofList (w.written sentence ++ if w.period then [] else w.trail.chars), ?_, ?_⟩
  · cases w.period with
    | true => exact w.sentenceOf_written hsentence Text.allBlank_nil
    | false => exact w.sentenceOf_written hsentence w.trail.allBlank
  · rw [Pattern.match?_eq_fits?, toList_line]
    exact Grammar.fits?_gap w.lead.allBlank (Grammar.stops_blank hname.solid)
      (Grammar.fits?_name hname (Grammar.stops_word w.afterName.spacing)
        (Grammar.fits?_space w.afterName.spacing (Grammar.stops_blank hverb)
          (Grammar.fits?_text (Grammar.fits?_optionalMark (fun _ => hcolon)
            (Grammar.fits?_gap w.afterVerb.allBlank hstops hend)))))

end Spelling

/-! ## The command -/

namespace Command

open Spelling (IsName Sayable Speech)

variable {speaker sentence : String}

/-- No form without a speaker reads the line. -/
theorem match?_keywordForms_of_speech (w : Speech) {verb : String}
    (hscore : speaker ≠ "scoreof") (hverb : verb ∈ ["asserts", "disavows"]) {third : List Char}
    (hopens : Grammar.Opens (w.line speaker verb sentence) speaker.toList
      (verb.toList ++ Spelling.optional ':' w.colon) third) :
    ∀ form ∈ Grammar.keywordForms, form.pattern.match? (w.line speaker verb sentence) = none := by
  have hother : ∀ colon, ∀ verb ∈ ["asserts", "disavows"],
      ∀ s ∈ ["agent", "of", "score", "intelligence"],
        verb.toList ++ Spelling.optional ':' colon ≠ s.toList := by decide
  exact Grammar.match?_keywordForms_eq_none hopens (hother w.colon verb hverb)
    fun h => hscore (String.toList_inj.mp h.1)

theorem parse?_asserts (w : Speech) (hname : IsName speaker) (hscore : speaker ≠ "scoreof")
    (hsentence : Sayable sentence) :
    parse? (w.line speaker "asserts" sentence) = some (.assert speaker sentence) := by
  have hverb : Solid "asserts".toList := by decide
  obtain ⟨third, hopens⟩ := w.opens hname hverb hsentence
  obtain ⟨said, hsaid, hmatch⟩ := w.match?_speechForm hname hverb hsentence (c := .assert)
  refine parse?_eq_some_iff.mpr
    ⟨Grammar.keywordForms, Grammar.speechForm "asserts" .assert, _, rfl, ?_, _, hmatch, ?_⟩
  · exact match?_keywordForms_of_speech w hscore (by simp) hopens
  · exact congrArg some (congrArg _ hsaid)

theorem parse?_disavows (w : Speech) (hname : IsName speaker) (hscore : speaker ≠ "scoreof")
    (hsentence : Sayable sentence) :
    parse? (w.line speaker "disavows" sentence) = some (.disavow speaker sentence) := by
  have hverb : Solid "disavows".toList := by decide
  obtain ⟨third, hopens⟩ := w.opens hname hverb hsentence
  obtain ⟨said, hsaid, hmatch⟩ := w.match?_speechForm hname hverb hsentence (c := .disavow)
  refine parse?_eq_some_iff.mpr
    ⟨Grammar.keywordForms ++ [Grammar.speechForm "asserts" .assert],
      Grammar.speechForm "disavows" .disavow, _, rfl, ?_, _, hmatch, ?_⟩
  · refine List.forall_mem_append.mpr
      ⟨match?_keywordForms_of_speech w hscore (by simp) hopens, List.forall_mem_singleton.mpr ?_⟩
    exact Grammar.match?_eq_none_of_verb hopens (by decide) (by cases w.colon <;> decide)
  · exact congrArg some (congrArg _ hsaid)

end Command

end Discourse
