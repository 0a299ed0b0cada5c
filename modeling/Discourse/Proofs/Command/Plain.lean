import Discourse.Proofs.Command.Reading
import Discourse.Proofs.Command.Spelling
import Discourse.Proofs.Interpreter.Quotes

/-!
# Names and sentences that come from a line

A sentence that is said in a line ends before the first period, and it has lost its double quotes
and the blanks around it; so it can be said again, in double quotes if nothing is left of it. A
newcomer's name is a word.

* `Sentence.IsPlain`: a sentence that a line can say.
* `Command.IsPlain`, `Command.isPlain_of_parse?`: what a command that is read is about.
-/

namespace Discourse

/-- A line can say the sentence, as it stands or, if it is empty, in double quotes. -/
def Sentence.IsPlain (t : Sentence) : Prop :=
  ∃ s : String, t = s ∧ Text.trim s = s ∧ '.' ∉ s.toList ∧ '"' ∉ s.toList

theorem Text.trim_trim (s : String) : trim (trim s) = trim s := by
  have hstrip : stripChars isBlank (stripChars isBlank s.toList) = stripChars isBlank s.toList :=
    stripChars_of_isTrimmed (isTrimmed_stripChars isBlank s.toList)
  rw [trim, trim, String.toList_ofList, hstrip]

/-- What is said before a period is plain. -/
theorem isPlain_sentenceOf {text : String} (h : '.' ∉ text.toList) :
    Sentence.IsPlain (sentenceOf text) := by
  have hmem : ∀ c ∈ (Text.trim (removeQuotes text)).toList, c ∈ text.toList ∧ c ≠ '"' := by
    intro c hc
    rw [Text.trim, String.toList_ofList] at hc
    have hkept := Text.mem_of_mem_stripChars hc
    rw [removeQuotes, String.toList_ofList, List.mem_filter] at hkept
    exact ⟨hkept.1, by simpa using hkept.2⟩
  exact ⟨_, rfl, Text.trim_trim _, fun hperiod => h (hmem '.' hperiod).1,
    fun hquote => (hmem '"' hquote).2 rfl⟩

/-! ## Commands -/

namespace Command

/-- The name of a newcomer. -/
def newcomer? : Command → Option String
  | addAgent name => some name
  | _ => none

/-- The sentence is plain and the name of a newcomer is a word. -/
def IsPlain (c : Command) : Prop :=
  (∀ s ∈ c.spoken?, Sentence.IsPlain s) ∧ ∀ name ∈ c.newcomer?, Spelling.IsName name

end Command

namespace Grammar

/-- Whatever the form reads is plain. -/
def Form.ReadsPlainly (form : Form) : Prop :=
  ∀ line parts c, form.pattern.match? line = some parts → form.command? parts = some c → c.IsPlain

variable {parts : List Pattern}

/-- A form whose commands have neither. -/
theorem readsPlainly_of_yields {form : Form}
    (h : form.Yields fun c => c.spoken? = none ∧ c.newcomer? = none) : form.ReadsPlainly := by
  intro line parts c _ hc
  obtain ⟨hspoken, hnewcomer⟩ := h parts c hc
  refine ⟨fun s hs => ?_, fun name hname => ?_⟩
  · rw [hspoken] at hs
    cases hs
  · rw [hnewcomer] at hname
    cases hname

theorem noPeriod_of_reads {text : String} (h : (Pattern.some (.noneOf ['.'])).Reads text.toList) :
    '.' ∉ text.toList := fun hmem => absurd ((Pattern.reads_some.mp h).2 '.' hmem) (by decide)

theorem withOne_readsPlainly {c : String → Command}
    (heven : (withOne parts c).pattern.isEven = true)
    (hkept : (withOne parts c).pattern.kept = [Pattern.some .word])
    (hc : ∀ a, (c a).spoken? = none ∧ (c a).newcomer? = some a) :
    (withOne parts c).ReadsPlainly := by
  intro line kept d hmatch hd
  have hreads := Pattern.forall₂_match? heven hmatch
  rw [hkept] at hreads
  match kept, hreads with
  | [a], .cons ha .nil =>
    cases hd
    obtain ⟨hspoken, hnewcomer⟩ := hc a
    refine ⟨fun s hs => ?_, fun name hname => ?_⟩
    · rw [hspoken] at hs
      cases hs
    · rw [hnewcomer] at hname
      cases hname
      obtain ⟨hne, hword⟩ := Pattern.reads_some.mp ha
      exact ⟨fun he => hne (he ▸ rfl), hword⟩

theorem isPlain_of_spoken {c : Command} {text : String}
    (hreads : (Pattern.some (.noneOf ['.'])).Reads text.toList)
    (hspoken : c.spoken? = some (sentenceOf text)) (hnewcomer : c.newcomer? = none) :
    c.IsPlain := by
  refine ⟨fun s hs => ?_, fun name hname => ?_⟩
  · rw [hspoken] at hs
    rw [← Option.some.inj hs]
    exact isPlain_sentenceOf (noPeriod_of_reads hreads)
  · rw [hnewcomer] at hname
    cases hname

theorem withTwo_readsPlainly {c : String → String → Command} {p : Pattern}
    (heven : (withTwo parts c).pattern.isEven = true)
    (hkept : (withTwo parts c).pattern.kept = [p, Pattern.some (.noneOf ['.'])])
    (hc : ∀ a b, (c a b).spoken? = some (sentenceOf b) ∧ (c a b).newcomer? = none) :
    (withTwo parts c).ReadsPlainly := by
  intro line kept d hmatch hd
  have hreads := Pattern.forall₂_match? heven hmatch
  rw [hkept] at hreads
  match kept, hreads with
  | [a, b], .cons _ (.cons hb .nil) =>
    cases hd
    exact isPlain_of_spoken hb (hc a b).1 (hc a b).2

theorem withThree_readsPlainly {c : String → String → String → Command} {p q : Pattern}
    (heven : (withThree parts c).pattern.isEven = true)
    (hkept : (withThree parts c).pattern.kept = [p, q, Pattern.some (.noneOf ['.'])])
    (hc : ∀ a b d, (c a b d).spoken? = some (sentenceOf d) ∧ (c a b d).newcomer? = none) :
    (withThree parts c).ReadsPlainly := by
  intro line kept d hmatch hd
  have hreads := Pattern.forall₂_match? heven hmatch
  rw [hkept] at hreads
  match kept, hreads with
  | [a, b, said], .cons _ (.cons _ (.cons hsaid .nil)) =>
    cases hd
    exact isPlain_of_spoken hsaid (hc a b said).1 (hc a b said).2

theorem forms_readPlainly : ∀ form ∈ forms, form.ReadsPlainly := by
  simp only [forms, List.forall_mem_cons]
  exact ⟨readsPlainly_of_yields (bare_yields ⟨rfl, rfl⟩),
    readsPlainly_of_yields (bare_yields ⟨rfl, rfl⟩),
    readsPlainly_of_yields (bare_yields ⟨rfl, rfl⟩),
    withOne_readsPlainly rfl rfl fun _ => ⟨rfl, rfl⟩,
    readsPlainly_of_yields (withOne_yields fun _ => ⟨rfl, rfl⟩),
    readsPlainly_of_yields (bare_yields ⟨rfl, rfl⟩),
    readsPlainly_of_yields (withTwo_yields fun _ _ => ⟨rfl, rfl⟩),
    readsPlainly_of_yields (withTwo_yields fun _ _ => ⟨rfl, rfl⟩),
    readsPlainly_of_yields (bare_yields ⟨rfl, rfl⟩),
    readsPlainly_of_yields (withTwo_yields fun _ _ => ⟨rfl, rfl⟩),
    withTwo_readsPlainly rfl rfl fun _ _ => ⟨rfl, rfl⟩,
    withTwo_readsPlainly rfl rfl fun _ _ => ⟨rfl, rfl⟩,
    withThree_readsPlainly rfl rfl fun _ _ _ => ⟨rfl, rfl⟩,
    withThree_readsPlainly rfl rfl fun _ _ _ => ⟨rfl, rfl⟩,
    readsPlainly_of_yields (withThree_yields fun _ _ _ => ⟨rfl, rfl⟩),
    readsPlainly_of_yields (withThree_yields fun _ _ _ => ⟨rfl, rfl⟩),
    readsPlainly_of_yields (withThree_yields fun _ _ _ => ⟨rfl, rfl⟩),
    readsPlainly_of_yields (withThree_yields fun _ _ _ => ⟨rfl, rfl⟩),
    readsPlainly_of_yields (withTwo_yields fun _ _ => ⟨rfl, rfl⟩),
    readsPlainly_of_yields (withTwo_yields fun _ _ => ⟨rfl, rfl⟩),
    readsPlainly_of_yields (withOne_yields fun _ => ⟨rfl, rfl⟩), by simp⟩

end Grammar

/-- A command that is read is about a plain sentence, or lets in somebody whose name is a word. -/
theorem Command.isPlain_of_parse? {line : String} {c : Command} (h : parse? line = some c) :
    c.IsPlain := by
  obtain ⟨form, hform, hread⟩ := List.exists_of_findSome?_eq_some h
  obtain ⟨parts, hmatch, hc⟩ := Option.bind_eq_some_iff.mp hread
  exact Grammar.forms_readPlainly form hform line parts c hmatch hc

end Discourse
