import Discourse.Proofs.Command.Blanks

/-!
# Blanks around a line

Blanks before a line never matter. Blanks after a line can matter to a form that ends with what is
said; but no two such forms read the same line, for they are told apart by its words. So a line asks
for the same with any blanks around it, unless it asks for a void command because of the blanks at
its end.

* `Grammar.spokenForm?`, `Grammar.forms_areSeen`: the form of a line is seen from its words.
* `Grammar.read?_cons`, `Grammar.read?_concat`: a line with one blank more.
* `Command.parse?_margins_iff`: a line with any blanks around it.
-/

namespace Discourse

open Text (AllBlank Solid words)

namespace Grammar

variable {form : Form} {c : Char} {cs : List Char}

/-! ## The form of a line with a speaker -/

/-- The form that edits a rule, by the first letter of its kind. -/
def ruleForm? (edit : Edit) : List Char → Option Form
  | 'c' :: _ => some (inferenceForm edit .committive)
  | 'p' :: _ => some (inferenceForm edit .permissive)
  | 'i' :: _ => some (incompatibilityForm edit)
  | _ => none

/-- The form with what is said to which a line belongs, by the first letters of its second word and,
where a rule is edited, of its third. -/
def spokenForm? : List (List Char) → Option Form
  | _ :: ('a' :: 's' :: _) :: _ => some (speechForm "asserts" .assert)
  | _ :: ('d' :: _) :: _ => some (speechForm "disavows" .disavow)
  | _ :: ('c' :: _) :: _ => some challengeForm
  | _ :: ('a' :: 'b' :: _) :: _ => some withdrawForm
  | _ :: ('w' :: _) :: _ => some withdrawForm
  | _ :: ('a' :: 'd' :: _) :: third :: _ => ruleForm? .add third
  | _ :: ('r' :: _) :: third :: _ => ruleForm? .remove third
  | _ => none

/-- A form whose commands are never void, or one that is seen from the words of the line. -/
def Form.IsSeen (form : Form) : Prop :=
  form.Yields (fun c => c.isVoid = false) ∨
    ∀ cs, form.pattern.Reads cs → spokenForm? (words cs) = some form

theorem speechForm_isSeen {verb : String} {c : String → Sentence → Command}
    (hverb : Solid verb.toList)
    (h : ∀ speaker more rest, spokenForm? (speaker :: (verb.toList ++ more) :: rest) =
      some (speechForm verb c)) : (speechForm verb c).IsSeen := by
  refine Or.inr fun cs hreads => ?_
  obtain ⟨speaker, rest, hspeaker, hreads⟩ := words_of_reads_speaker hreads
  obtain ⟨more, others, hrest⟩ := words_of_reads_text hverb hreads
  rw [hspeaker, hrest, h]

theorem challengeForm_isSeen : challengeForm.IsSeen := by
  refine Or.inr fun cs hreads => ?_
  obtain ⟨speaker, rest, hspeaker, hreads⟩ := words_of_reads_speaker hreads
  obtain ⟨more, others, hrest⟩ := words_of_reads_text (by decide) hreads
  rw [hspeaker, hrest]
  rfl

theorem withdrawForm_isSeen : withdrawForm.IsSeen := by
  refine Or.inr fun cs hreads => ?_
  obtain ⟨speaker, rest, hspeaker, hreads⟩ := words_of_reads_speaker hreads
  obtain ⟨verb, after, rfl, hverb, hafter⟩ := Pattern.reads_sequence_cons.mp hreads
  obtain ⟨s, hs, rfl⟩ := (reads_anyOf (by simp)).mp hverb
  have hsolid : ∀ verb ∈ ["abandons", "withdraws"], Solid verb.toList := by decide
  obtain ⟨more, others, hrest⟩ := Text.exists_words_solid_append (hsolid s hs) after
  rw [hspeaker, hrest]
  rcases List.mem_pair.mp hs with rfl | rfl <;> rfl

theorem inferenceForm_isSeen (edit : Edit) (kind : InferenceKind) :
    (inferenceForm edit kind).IsSeen := by
  refine Or.inr fun cs hreads => ?_
  obtain ⟨speaker, rest, hspeaker, hreads⟩ := words_of_reads_speaker hreads
  obtain ⟨rest, hverb, hreads⟩ := words_of_reads_text_space (by cases edit <;> decide) hreads
  obtain ⟨more, others, hrest⟩ := words_of_reads_text (by cases kind <;> decide) hreads
  rw [hspeaker, hverb, hrest]
  cases edit <;> cases kind <;> rfl

theorem incompatibilityForm_isSeen (edit : Edit) : (incompatibilityForm edit).IsSeen := by
  refine Or.inr fun cs hreads => ?_
  obtain ⟨speaker, rest, hspeaker, hreads⟩ := words_of_reads_speaker hreads
  obtain ⟨rest, hverb, hreads⟩ := words_of_reads_text_space (by cases edit <;> decide) hreads
  obtain ⟨more, others, hrest⟩ := words_of_reads_text (by decide) hreads
  rw [hspeaker, hverb, hrest]
  cases edit <;> rfl

theorem forms_areSeen : ∀ form ∈ forms, form.IsSeen := by
  simp only [forms, List.forall_mem_cons]
  exact ⟨.inl (bare_yields rfl), .inl (bare_yields rfl), .inl (bare_yields rfl),
    .inl (withOne_yields fun _ => rfl), .inl (withOne_yields fun _ => rfl), .inl (bare_yields rfl),
    .inl (withTwo_yields fun _ _ => rfl), .inl (withTwo_yields fun _ _ => rfl),
    .inl (bare_yields rfl), .inl (withTwo_yields fun _ _ => rfl),
    speechForm_isSeen (by decide) fun _ _ _ => rfl,
    speechForm_isSeen (by decide) fun _ _ _ => rfl,
    challengeForm_isSeen, withdrawForm_isSeen,
    inferenceForm_isSeen .add .committive, inferenceForm_isSeen .add .permissive,
    inferenceForm_isSeen .remove .committive, inferenceForm_isSeen .remove .permissive,
    incompatibilityForm_isSeen .add, incompatibilityForm_isSeen .remove,
    .inl (withOne_yields fun _ => rfl), by simp⟩

/-- Where a form reads a void command, it is seen from the words. -/
theorem Form.IsSeen.of_asksVoid (h : form.IsSeen) (hvoid : AsksVoid (form.read? cs)) :
    spokenForm? (words cs) = some form := by
  obtain ⟨c, hc, hvoid⟩ := hvoid
  obtain ⟨kept, hkept, hcommand⟩ := Option.bind_eq_some_iff.mp hc
  refine h.resolve_left (fun hnever => ?_) cs (Pattern.reads_of_fits? hkept)
  have hnot : c.isVoid = false := hnever kept c hcommand
  rw [hvoid] at hnot
  cases hnot

/-! ## A line with one blank more -/

/-- What a line asks for, by its characters. -/
def read? (cs : List Char) : Option Command := forms.findSome? (·.read? cs)

theorem read?_cons (hc : Text.isBlank c = true) (cs : List Char) : read? (c :: cs) = read? cs := by
  have hsame : ∀ form ∈ forms, form.read? (c :: cs) = form.read? cs ∨
      ∃ d, form.read? (c :: cs) = some d ∧ False := fun form hform =>
    Or.inl (forms_startFreely form hform c hc cs)
  exact (findSome?_eq_or hsame).resolve_right fun ⟨_, _, h⟩ => h

theorem words_concat (hc : Text.isBlank c = true) (cs : List Char) :
    words (cs ++ [c]) = words cs := by
  rw [Text.words_append_cons hc, Text.words_nil, List.append_nil]

theorem read?_concat (hc : Text.isBlank c = true) (cs : List Char) :
    Keeps (read? cs) (read? (cs ++ [c])) := by
  refine findSome?_keeps (fun form hform => forms_endFreely form hform c hc cs) ?_
  -- Two forms that say something are told apart by the words of the line, to which blanks add none.
  intro form hform form' hform' hlapses hvoid
  have hseen := (forms_areSeen form hform).of_asksVoid hlapses.1
  have hseen' := (forms_areSeen form' hform').of_asksVoid hvoid
  rw [words_concat hc, hseen'] at hseen
  obtain rfl := Option.some.inj hseen
  exact hlapses.2 hvoid

theorem read?_blanks_append {blanks : List Char} (h : AllBlank blanks) (cs : List Char) :
    read? (blanks ++ cs) = read? cs := by
  induction blanks with
  | nil => rfl
  | cons c blanks ih =>
    obtain ⟨hc, hblanks⟩ := List.forall_mem_cons.mp h
    rw [List.cons_append, read?_cons hc, ih hblanks]

theorem read?_append_blanks {blanks : List Char} (h : AllBlank blanks) (cs : List Char) :
    Keeps (read? cs) (read? (cs ++ blanks)) := by
  induction blanks using List.reverseRecOn with
  | nil => exact Or.inl (by rw [List.append_nil])
  | append_singleton blanks c ih =>
    obtain ⟨hblanks, hc⟩ := List.forall_mem_append.mp h
    rw [← List.append_assoc]
    exact (ih hblanks).trans (read?_concat (hc c (List.mem_singleton_self c)) _)

end Grammar

/-! ## A line with any blanks around it -/

namespace Command

/-- The line asks for a void command. -/
def IsVoid (line : String) : Prop := AsksVoid (parse? line)

/-- With blanks around it a line asks for the same, unless it asks for a void command because of the
blanks at its end. -/
theorem parse?_margins_iff (line : String) {lead trail : String} (hlead : AllBlank lead.toList)
    (htrail : AllBlank trail.toList) :
    parse? (lead ++ line ++ trail) = parse? line ↔ (IsVoid (line ++ trail) → IsVoid line) := by
  have hread : ∀ l, parse? l = Grammar.read? l.toList := fun _ => rfl
  have hleft : parse? (lead ++ line ++ trail) = parse? (line ++ trail) := by
    rw [hread, hread, String.append_assoc, String.toList_append, Grammar.read?_blanks_append hlead]
  have hright : Keeps (parse? line) (parse? (line ++ trail)) := by
    rw [hread, hread, String.toList_append]
    exact Grammar.read?_append_blanks htrail _
  rw [hleft, IsVoid, IsVoid]
  constructor
  · intro hsame hvoid
    rwa [← hsame]
  · exact fun h => hright.resolve_right fun hlapses => hlapses.2 (h hlapses.1)

end Command

end Discourse
