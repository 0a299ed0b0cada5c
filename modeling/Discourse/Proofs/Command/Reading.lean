import Discourse.Proofs.Command.Grammar
import Discourse.Proofs.Pattern

/-!
# What a line says

A form keeps as many parts as its command has pieces, so the first form that reads a line always
says what is asked for. A depth is written in decimal digits, each of which counts.

* `Command.parse?_eq_some_iff`, `Command.parse?_eq_none_iff`: the first form that reads the line.
* `Command.readDigits_of_parse?`: when the digits of a depth cannot be read.
-/

namespace Discourse

/-- The digits of the depth that a command sets. -/
def Command.digits? : Command → Option String
  | setIntelligence _ digits => some digits
  | _ => none

namespace Grammar

/-! ## Whatever is read gives a command -/

/-- Whatever the form reads gives a command. -/
def Form.Answers (form : Form) : Prop :=
  ∀ line parts, form.pattern.match? line = some parts → (form.command? parts).isSome = true

variable {parts : List Pattern}

theorem bare_answers {c : Command} (heven : (bare parts c).pattern.isEven = true)
    (hkept : (bare parts c).pattern.kept.length = 0) : (bare parts c).Answers := by
  intro line kept h
  have hlength := (Pattern.length_match? heven h).trans hkept
  match kept, hlength with
  | [], _ => rfl

theorem withOne_answers {c : String → Command} (heven : (withOne parts c).pattern.isEven = true)
    (hkept : (withOne parts c).pattern.kept.length = 1) : (withOne parts c).Answers := by
  intro line kept h
  have hlength := (Pattern.length_match? heven h).trans hkept
  match kept, hlength with
  | [_], _ => rfl

theorem withTwo_answers {c : String → String → Command}
    (heven : (withTwo parts c).pattern.isEven = true)
    (hkept : (withTwo parts c).pattern.kept.length = 2) : (withTwo parts c).Answers := by
  intro line kept h
  have hlength := (Pattern.length_match? heven h).trans hkept
  match kept, hlength with
  | [_, _], _ => rfl

theorem withThree_answers {c : String → String → String → Command}
    (heven : (withThree parts c).pattern.isEven = true)
    (hkept : (withThree parts c).pattern.kept.length = 3) : (withThree parts c).Answers := by
  intro line kept h
  have hlength := (Pattern.length_match? heven h).trans hkept
  match kept, hlength with
  | [_, _, _], _ => rfl

theorem forms_answer : ∀ form ∈ forms, form.Answers := by
  simp only [forms, List.forall_mem_cons]
  exact ⟨bare_answers rfl rfl, bare_answers rfl rfl, bare_answers rfl rfl,
    withOne_answers rfl rfl, withOne_answers rfl rfl, bare_answers rfl rfl,
    withTwo_answers rfl rfl, withTwo_answers rfl rfl, bare_answers rfl rfl,
    withTwo_answers rfl rfl, withTwo_answers rfl rfl, withTwo_answers rfl rfl,
    withThree_answers rfl rfl, withThree_answers rfl rfl,
    withThree_answers rfl rfl, withThree_answers rfl rfl, withThree_answers rfl rfl,
    withThree_answers rfl rfl, withTwo_answers rfl rfl, withTwo_answers rfl rfl,
    withOne_answers rfl rfl, by simp⟩

/-! ## Digits -/

/-- Where a command of the form sets a depth, the form has read decimal digits. -/
def Form.ReadsDigits (form : Form) : Prop :=
  ∀ line parts c, form.pattern.match? line = some parts → form.command? parts = some c →
    ∀ digits ∈ c.digits?, ∀ d ∈ digits.toList, Text.isDecimal d = true

theorem readsDigits_of_yields {form : Form} (h : form.Yields (·.digits? = none)) :
    form.ReadsDigits := by
  intro line parts c _ hc digits hdigits
  rw [h parts c hc] at hdigits
  cases hdigits

theorem withTwo_readsDigits {c : String → String → Command} {p : Pattern}
    (heven : (withTwo parts c).pattern.isEven = true)
    (hkept : (withTwo parts c).pattern.kept = [p, Pattern.some .decimal])
    (hc : ∀ a b, (c a b).digits? = some b) : (withTwo parts c).ReadsDigits := by
  intro line kept d hmatch hd digits hdigits
  have hreads := Pattern.forall₂_match? heven hmatch
  rw [hkept] at hreads
  match kept, hreads with
  | [a, b], .cons _ (.cons hb .nil) =>
    cases hd
    rw [hc] at hdigits
    cases hdigits
    exact hb.has_of_some

theorem forms_readDigits : ∀ form ∈ forms, form.ReadsDigits := by
  simp only [forms, List.forall_mem_cons]
  exact ⟨readsDigits_of_yields (bare_yields rfl), readsDigits_of_yields (bare_yields rfl),
    readsDigits_of_yields (bare_yields rfl),
    readsDigits_of_yields (withOne_yields fun _ => rfl),
    readsDigits_of_yields (withOne_yields fun _ => rfl),
    readsDigits_of_yields (bare_yields rfl),
    readsDigits_of_yields (withTwo_yields fun _ _ => rfl),
    readsDigits_of_yields (withTwo_yields fun _ _ => rfl),
    readsDigits_of_yields (bare_yields rfl),
    withTwo_readsDigits rfl rfl fun _ _ => rfl,
    readsDigits_of_yields (withTwo_yields fun _ _ => rfl),
    readsDigits_of_yields (withTwo_yields fun _ _ => rfl),
    readsDigits_of_yields (withThree_yields fun _ _ _ => rfl),
    readsDigits_of_yields (withThree_yields fun _ _ _ => rfl),
    readsDigits_of_yields (withThree_yields fun _ _ _ => rfl),
    readsDigits_of_yields (withThree_yields fun _ _ _ => rfl),
    readsDigits_of_yields (withThree_yields fun _ _ _ => rfl),
    readsDigits_of_yields (withThree_yields fun _ _ _ => rfl),
    readsDigits_of_yields (withTwo_yields fun _ _ => rfl),
    readsDigits_of_yields (withTwo_yields fun _ _ => rfl),
    readsDigits_of_yields (withOne_yields fun _ => rfl), by simp⟩

end Grammar

namespace Command

open Grammar (forms)

variable {line : String} {c : Command}

/-! ## The first form that reads the line -/

theorem parse?_eq_none_iff :
    parse? line = none ↔ ∀ form ∈ forms, form.pattern.match? line = none := by
  rw [parse?, List.findSome?_eq_none_iff]
  refine forall₂_congr fun form hform => ?_
  cases hmatch : form.pattern.match? line with
  | none => simp
  | some parts =>
    have hanswers := Grammar.forms_answer form hform line parts hmatch
    obtain ⟨d, hd⟩ := Option.isSome_iff_exists.mp hanswers
    simp [hd]

/-- A line asks for what the first form says that reads it. -/
theorem parse?_eq_some_iff :
    parse? line = some c ↔ ∃ before form after, forms = before ++ form :: after ∧
      (∀ earlier ∈ before, earlier.pattern.match? line = none) ∧
      ∃ parts, form.pattern.match? line = some parts ∧ form.command? parts = some c := by
  rw [parse?, List.findSome?_eq_some_iff]
  refine exists_congr fun before => exists_congr fun form => exists_congr fun after => ?_
  refine and_congr_right fun hforms => ?_
  rw [Option.bind_eq_some_iff, and_comm]
  refine and_congr_left fun _ => forall₂_congr fun earlier hearlier => ?_
  have hmem : earlier ∈ forms := hforms ▸ List.mem_append_left _ hearlier
  cases hmatch : earlier.pattern.match? line with
  | none => simp
  | some parts =>
    have hanswers := Grammar.forms_answer earlier hmem line parts hmatch
    obtain ⟨d, hd⟩ := Option.isSome_iff_exists.mp hanswers
    simp [hd]

/-! ## Depths -/

/-- The digits of a depth cannot be read when there are too many of them, and for no other
reason. -/
theorem readDigits_of_parse? {name digits : String} {e : Text.NumeralTooLong}
    (h : parse? line = some (.setIntelligence name digits)) :
    Text.readDigits digits.toList = .error e ↔
      Text.maxDigits < digits.length ∧ e = ⟨digits.length⟩ := by
  obtain ⟨before, form, after, hforms, -, parts, hmatch, hc⟩ := parse?_eq_some_iff.mp h
  have hform : form ∈ forms := hforms ▸ List.mem_append_right _ List.mem_cons_self
  have hdecimal : ∀ d ∈ digits.toList, Text.isDecimal d = true :=
    Grammar.forms_readDigits form hform line parts _ hmatch hc digits rfl
  have hlength : (digits.toList.filterMap Text.decimalValue?).length = digits.length := by
    have hall : digits.toList.countP Text.isDecimal = digits.toList.length :=
      List.countP_eq_length.mpr hdecimal
    rw [List.length_filterMap_eq_countP, ← String.length_toList]
    exact hall
  simp only [Text.readDigits, hlength]
  split
  next hle => exact iff_of_false (by rintro ⟨⟩) fun hlt => absurd hle (Nat.not_le.mpr hlt.1)
  next hlt => simp [Nat.not_le.mp hlt, eq_comm]

end Command

end Discourse
