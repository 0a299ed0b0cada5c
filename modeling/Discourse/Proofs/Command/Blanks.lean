import Discourse.Proofs.Command.Dispute

/-!
# A form with one blank more

Every form begins with as many blanks as there are, so one blank more before a line makes no
difference to it. Nor does one blank more after the line, but for one thing: a form that ends with
what is said may read the blank as what is said, and gives a command about the empty sentence where
it has given none.

* `Command.isVoid`: a command about the empty sentence.
* `Keeps`, `findSome?_keeps`: nothing changes but that a void command is asked for.
* `Grammar.EndsSaying`: a form that ends with what is said.
* `Grammar.forms_startFreely`, `Grammar.forms_endFreely`: all forms, with one blank more.
-/

namespace Discourse

open Text (AllBlank Solid words)
open Pattern (text sequence maybe anyOf)

/-! ## Commands about the empty sentence -/

/-- Whether the command is about the empty sentence: the one sentence that it names, the conclusion
of its inference or the only sentence of its incompatibility is empty. -/
def Command.isVoid : Command → Bool
  | .assert _ s | .disavow _ s | .challenge _ _ s | .withdraw _ _ s | .editInference _ _ _ _ s =>
    s == Text.ofString ""
  | .editIncompatibility _ _ sentences => sentences == [Text.ofString ""]
  | _ => false

/-- What is asked for is a void command. -/
def AsksVoid (asked : Option Command) : Prop := ∃ c, asked = some c ∧ c.isVoid = true

/-- A void command is asked for after a change, and was not before it. -/
def Lapses (before after : Option Command) : Prop := AsksVoid after ∧ ¬ AsksVoid before

/-- Nothing changes, or what is asked for becomes void. -/
def Keeps (before after : Option Command) : Prop := after = before ∨ Lapses before after

theorem Keeps.trans {first second third : Option Command} (h : Keeps first second)
    (h' : Keeps second third) : Keeps first third := by
  rcases h with rfl | h
  · exact h'
  · rcases h' with rfl | h'
    · exact Or.inr h
    · exact absurd h.1 h'.2

/-- If one of several answers becomes void where none was void, so may the first one. -/
theorem findSome?_keeps {β : Type} {f g : β → Option Command} {l : List β}
    (hstep : ∀ b ∈ l, Keeps (f b) (g b))
    (hone : ∀ b ∈ l, ∀ b' ∈ l, Lapses (f b) (g b) → ¬ AsksVoid (f b')) :
    Keeps (l.findSome? f) (l.findSome? g) := by
  have hsteps : ∀ b ∈ l, g b = f b ∨ AsksVoid (g b) := fun b hb =>
    (hstep b hb).imp_right fun h => h.1
  rcases Grammar.findSome?_eq_or hsteps with h | hvoid
  · exact Or.inl h
  · by_cases hlapses : ∃ b ∈ l, Lapses (f b) (g b)
    · obtain ⟨b, hb, hlapses⟩ := hlapses
      refine Or.inr ⟨hvoid, fun ⟨c, hc, hbefore⟩ => ?_⟩
      obtain ⟨b', hb', hfirst⟩ := List.exists_of_findSome?_eq_some hc
      exact hone b hb b' hb' hlapses ⟨c, hfirst, hbefore⟩
    · have hsame : ∀ b ∈ l, g b = f b ∨ ∃ c, g b = some c ∧ False := fun b hb =>
        Or.inl ((hstep b hb).resolve_right fun h => hlapses ⟨b, hb, h⟩)
      exact Or.inl ((Grammar.findSome?_eq_or hsame).resolve_right fun ⟨_, _, h⟩ => h)

namespace Grammar

/-! ## A form with one blank more -/

/-- What the form makes of a line. -/
def Form.read? (form : Form) (cs : List Char) : Option Command :=
  (form.pattern.fits? cs).bind form.command?

/-- A blank before a line makes no difference. -/
def Form.StartsFreely (form : Form) : Prop :=
  ∀ c, Text.isBlank c = true → ∀ cs, form.read? (c :: cs) = form.read? cs

/-- A blank after a line makes no difference but that the command may become void. -/
def Form.EndsFreely (form : Form) : Prop :=
  ∀ c, Text.isBlank c = true → ∀ cs, Keeps (form.read? cs) (form.read? (cs ++ [c]))

variable {form : Form} {parts heads tail : List Pattern} {c : Char} {cs : List Char}

/-! ### Blanks before a line -/

theorem fits?_gap_cons (hc : Text.isBlank c = true)
    (h : (sequence parts).Reads (c :: cs) → (sequence (gap :: parts)).Reads cs) :
    (sequence (gap :: parts)).fits? (c :: cs) = (sequence (gap :: parts)).fits? cs := by
  have hgap : ∀ cs, (sequence (gap :: parts)).fits? cs =
      Pattern.searchEager .blank (sequence parts).fits? cs := fun _ => rfl
  have hhas : CharClass.blank.has c = true := hc
  rw [hgap, hgap, Pattern.searchEager, if_pos hhas]
  cases hfits : Pattern.searchEager .blank (sequence parts).fits? cs with
  | some kept => rfl
  | none =>
    rw [← hgap, Pattern.fits?_eq_none_iff] at hfits
    exact Pattern.fits?_eq_none_iff.mpr fun hreads => hfits (h hreads)

theorem startsFreely_of_reads (hform : form.pattern = sequence (gap :: parts))
    (h : ∀ {c cs}, Text.isBlank c = true → (sequence parts).Reads (c :: cs) →
      (sequence (gap :: parts)).Reads cs) : form.StartsFreely := by
  intro c hc cs
  rw [Form.read?, Form.read?, hform, fits?_gap_cons hc (h hc)]

/-- A form that begins with something that is no blank. -/
theorem startsFreely_of_solid {p : Pattern} (hform : form.pattern = sequence (gap :: p :: parts))
    (hp : ∀ {run}, p.Reads run → Solid run) : form.StartsFreely := by
  refine startsFreely_of_reads hform fun {c cs} hc hreads => ?_
  obtain ⟨first, second, hsplit, hfirst, -⟩ := Pattern.reads_sequence_cons.mp hreads
  exact absurd hsplit.symm ((hp hfirst).append_ne_cons hc)

theorem startsFreely_of_text {s : String}
    (hform : form.pattern = sequence (gap :: text s :: parts)) (hs : Solid s.toList) :
    form.StartsFreely :=
  startsFreely_of_solid hform fun hreads => Pattern.reads_text.mp hreads ▸ hs

/-! ### Forms that end with blanks, or none -/

theorem endsFreely_of_closed (hform : form.pattern = sequence parts)
    (hparts : parts = parts.dropLast ++ [gap]) (hfirm : endsFirm (sequence parts.dropLast) = true) :
    form.EndsFreely := by
  intro c hc cs
  have hsplit : ∀ run, form.pattern.fits? run =
      (Pattern.seq (sequence parts.dropLast) (sequence [gap])).fits? run := by
    intro run
    rw [hform]
    nth_rewrite 1 [hparts]
    exact Pattern.search_sequence_append ..
  have hend : (sequence parts.dropLast).Reads (cs ++ [c]) → ¬ (sequence [gap]).Reads [] :=
    fun hreads => absurd (endsFirm_of_reads hfirm hreads) (not_endsFirm_concat hc)
  have hgap := (trails_sequence_singleton trails_gap).fits?_concat rfl rfl hc
  refine Or.inl ?_
  rw [Form.read?, Form.read?, hsplit, hsplit, Pattern.fits?_seq_concat hend, Pattern.fits?_seq]
  simp only [hgap]

/-! ### Forms that end with what is said -/

theorem bind_findSome? {α β γ : Type} {f : β → Option α} {g : β → Option γ} {k : α → Option γ}
    {l : List β} (h : ∀ b ∈ l, (f b).bind k = g b)
    (hsome : ∀ b ∈ l, ∀ a, f b = some a → (k a).isSome = true) :
    (l.findSome? f).bind k = l.findSome? g := by
  induction l with
  | nil => rfl
  | cons b l ih =>
    obtain ⟨hb, hl⟩ := List.forall_mem_cons.mp h
    obtain ⟨hbsome, hlsome⟩ := List.forall_mem_cons.mp hsome
    rw [List.findSome?_cons, List.findSome?_cons, ← hb]
    cases hf : f b with
    | none => exact ih hl hlsome
    | some a =>
      obtain ⟨c, hc⟩ := Option.isSome_iff_exists.mp (hbsome a hf)
      rw [Option.bind_some, hc]

/-- A form that ends with what is said: the command depends on the parts before it, of which there
are as many as the form keeps, and on what is said, and is void if this is nothing. -/
structure EndsSaying {α : Type} (form : Form) (heads tail : List Pattern) (norm : String → α)
    (say : List String → α → Command) : Prop where
  pattern : form.pattern = sequence (heads ++ tail)
  even : (sequence heads).isEven = true
  firm : endsFirm (sequence heads) = true
  steady : Steady tail norm
  command : ∀ groups a, groups.length = (sequence heads).kept.length →
    form.command? (groups ++ [a]) = some (say groups (norm a))
  void : ∀ groups x, (say groups x).isVoid = true ↔ x = norm ""

section EndsSaying

variable {α : Type} {norm : String → α} {say : List String → α → Command}

/-- What the command of a reading is, by what is said after it. -/
theorem EndsSaying.bind_command (h : EndsSaying form heads tail norm say)
    {r : List Pattern.Part × List Char} (hr : r ∈ (sequence heads).readings cs) (rest : List Char) :
    (((sequence tail).fits? rest).map (Pattern.wordsOf r ++ ·)).bind form.command? =
      (said tail norm rest).map (say (Pattern.wordsOf r)) := by
  cases hfits : (sequence tail).fits? rest with
  | none => rw [said, hfits]; rfl
  | some kept =>
    obtain ⟨a, rfl⟩ := h.steady.single hfits
    rw [said, hfits]
    exact h.command _ a (Pattern.length_wordsOf h.even hr)

theorem EndsSaying.isSome_command (h : EndsSaying form heads tail norm say)
    {r : List Pattern.Part × List Char} (hr : r ∈ (sequence heads).readings cs) {rest : List Char}
    {kept : List String}
    (hkept : ((sequence tail).fits? rest).map (Pattern.wordsOf r ++ ·) = some kept) :
    (form.command? kept).isSome = true := by
  obtain ⟨more, hmore, rfl⟩ := Option.map_eq_some_iff.mp hkept
  obtain ⟨a, rfl⟩ := h.steady.single hmore
  rw [h.command _ a (Pattern.length_wordsOf h.even hr)]
  rfl

/-- The first reading of what comes before decides. -/
theorem EndsSaying.read?_eq (h : EndsSaying form heads tail norm say) (cs : List Char) :
    form.read? cs = ((sequence heads).readings cs).findSome? fun r =>
      (said tail norm r.2).map (say (Pattern.wordsOf r)) := by
  rw [Form.read?, h.pattern, Pattern.fits?_sequence_append, Pattern.fits?_seq]
  exact bind_findSome? (fun r hr => h.bind_command hr r.2) fun r hr kept => h.isSome_command hr

theorem EndsSaying.read?_concat (h : EndsSaying form heads tail norm say)
    (hc : Text.isBlank c = true) (cs : List Char) :
    form.read? (cs ++ [c]) = ((sequence heads).readings cs).findSome? fun r =>
      (said tail norm (r.2 ++ [c])).map (say (Pattern.wordsOf r)) := by
  have hend : (sequence heads).Reads (cs ++ [c]) → ¬ (sequence tail).Reads [] :=
    fun hreads => absurd (endsFirm_of_reads h.firm hreads) (not_endsFirm_concat hc)
  rw [Form.read?, h.pattern, Pattern.fits?_sequence_append, Pattern.fits?_seq_concat hend]
  exact bind_findSome? (fun r hr => h.bind_command hr (r.2 ++ [c]))
    fun r hr kept => h.isSome_command hr

theorem EndsSaying.asksVoid_iff (h : EndsSaying form heads tail norm say) {groups : List String}
    {rest : List Char} :
    AsksVoid ((said tail norm rest).map (say groups)) ↔ said tail norm rest = some (norm "") := by
  constructor
  · rintro ⟨d, hd, hvoid⟩
    obtain ⟨x, hx, rfl⟩ := Option.map_eq_some_iff.mp hd
    rw [hx, (h.void groups x).mp hvoid]
  · intro hsaid
    exact ⟨say groups (norm ""), by rw [hsaid]; rfl, (h.void groups _).mpr rfl⟩

/-- Where two readings say nothing, what comes before is the same in both. -/
theorem EndsSaying.rest_eq (h : EndsSaying form heads tail norm say)
    {r s : List Pattern.Part × List Char} (hr : r ∈ (sequence heads).readings cs)
    (hs : s ∈ (sequence heads).readings cs) (hrest : Mute r.2) (hrest' : Mute s.2) : r.2 = s.2 := by
  obtain ⟨run, hrun, hread⟩ := Pattern.exists_run_forall hr
  obtain ⟨run', hrun', hread'⟩ := Pattern.exists_run_forall hs
  exact rest_eq_of_endsFirm (endsFirm_of_reads h.firm (Pattern.reads_iff_forall.mpr hread))
    (endsFirm_of_reads h.firm (Pattern.reads_iff_forall.mpr hread')) hrest hrest'
    (hrun.symm.trans hrun')

theorem EndsSaying.endsFreely (h : EndsSaying form heads tail norm say) : form.EndsFreely := by
  intro c hc cs
  have hlapse : ∀ r : List Pattern.Part × List Char,
      Lapses ((said tail norm r.2).map (say (Pattern.wordsOf r)))
        ((said tail norm (r.2 ++ [c])).map (say (Pattern.wordsOf r))) →
      Mute r.2 ∧ said tail norm r.2 ≠ some (norm "") := fun r hlapses =>
    ⟨(List.forall_mem_append.mp (h.steady.mute (h.asksVoid_iff.mp hlapses.1))).1,
      fun hsaid => hlapses.2 (h.asksVoid_iff.mpr hsaid)⟩
  rw [h.read?_eq, h.read?_concat hc]
  refine findSome?_keeps (fun r _ => ?_) fun r hr s hs hlapses hvoid => ?_
  · rcases h.steady.concat hc r.2 with hsame | hnothing
    · exact Or.inl (by rw [hsame])
    · by_cases hbefore : said tail norm r.2 = some (norm "")
      · exact Or.inl (by rw [hnothing, hbefore])
      · exact Or.inr ⟨h.asksVoid_iff.mpr hnothing, fun hvoid => hbefore (h.asksVoid_iff.mp hvoid)⟩
  · obtain ⟨hmute, hne⟩ := hlapse r hlapses
    have hnothing := h.asksVoid_iff.mp hvoid
    rw [h.rest_eq hr hs hmute (h.steady.mute hnothing)] at hne
    exact hne hnothing

/-- A form that keeps a part before what is said. -/
theorem withTwo_endsSaying (heads : List Pattern) {c : String → α → Command}
    (hsteady : Steady tail norm)
    (heven : (sequence heads).isEven = true) (hkept : (sequence heads).kept.length = 1)
    (hfirm : endsFirm (sequence (gap :: heads)) = true)
    (hvoid : ∀ a x, (c a x).isVoid = true ↔ x = norm "") :
    EndsSaying (withTwo (heads ++ tail) fun a b => c a (norm b)) (gap :: heads) tail norm
      fun groups => c (groups.headD "") where
  pattern := rfl
  even := heven
  firm := hfirm
  steady := hsteady
  command groups a h := by
    obtain ⟨b, rfl⟩ := List.length_eq_one_iff.mp (h.trans hkept)
    rfl
  void groups := hvoid _

/-- A form that keeps two parts before what is said. -/
theorem withThree_endsSaying (heads : List Pattern) {c : String → String → α → Command}
    (hsteady : Steady tail norm)
    (heven : (sequence heads).isEven = true) (hkept : (sequence heads).kept.length = 2)
    (hfirm : endsFirm (sequence (gap :: heads)) = true)
    (hvoid : ∀ a b x, (c a b x).isVoid = true ↔ x = norm "") :
    EndsSaying (withThree (heads ++ tail) fun a b d => c a b (norm d)) (gap :: heads) tail norm
      fun groups => c (groups.headD "") (groups.getD 1 "") where
  pattern := rfl
  even := heven
  firm := hfirm
  steady := hsteady
  command groups a h := by
    obtain ⟨b, d, rfl⟩ := List.length_eq_two.mp (h.trans hkept)
    rfl
  void groups := hvoid _ _

end EndsSaying

/-! ### The forms -/

theorem allBlank_of_reads_gap {run : List Char} (h : gap.Reads run) : AllBlank run := reads_gap.mp h

theorem allBlank_of_reads_space {run : List Char} (h : space.Reads run) : AllBlank run :=
  (reads_space.mp h).2

theorem sentenceOf_empty : sentenceOf "" = Text.ofString "" := by decide

theorem trim_empty : Text.trim "" = "" := by decide

theorem sentencesOf_empty : sentencesOf "" = [Text.ofString ""] := by decide

theorem speechForm_endsFreely {verb : String} {c : String → Sentence → Command}
    (hfirm : endsFirm (sequence [gap, name, space, text verb, optionalMark [':']]) = true)
    (hc : ∀ a s, (c a s).isVoid = true ↔ s = sentenceOf "") : (speechForm verb c).EndsFreely := by
  have hsteady : Steady [gap, utterance true, sentenceEnd] sentenceOf :=
    steady_utterance rfl rfl allBlank_of_reads_gap loose_sentenceOf
  have h : EndsSaying (speechForm verb c) _ _ sentenceOf _ :=
    withTwo_endsSaying [name, space, text verb, optionalMark [':']] hsteady rfl rfl hfirm hc
  exact h.endsFreely

theorem challengeForm_endsFreely : challengeForm.EndsFreely := by
  have hsteady : Steady saying sentenceOf :=
    steady_utterance rfl rfl allBlank_of_reads_space loose_sentenceOf
  have h : EndsSaying challengeForm _ saying sentenceOf _ :=
    withThree_endsSaying
      [name, space, text "challenges", space, name,
        maybe (sequence [text "'s", space, text "entitlement", space, text "to"])]
      hsteady rfl rfl (by decide) (by simp [Command.isVoid, sentenceOf_empty])
  exact h.endsFreely

theorem withdrawForm_endsFreely : withdrawForm.EndsFreely := by
  have hsteady : Steady saying sentenceOf :=
    steady_utterance rfl rfl allBlank_of_reads_space loose_sentenceOf
  have h : EndsSaying withdrawForm _ saying sentenceOf _ :=
    withThree_endsSaying
      [name, space, anyOf ["abandons", "withdraws"], space,
        maybe (sequence [anyOf ["his", "her", "its", "their"], space]), text "challenge", space,
        maybe (sequence [text "to", space]), name, maybe (text "'s entitlement to")]
      hsteady rfl rfl (by decide) (by simp [Command.isVoid, sentenceOf_empty])
  exact h.endsFreely

theorem inferenceForm_endsFreely (edit : Edit) (kind : InferenceKind) :
    (inferenceForm edit kind).EndsFreely := by
  have hsteady : Steady [gap, utterance false, sentenceEnd] fun s => Text.ofString (Text.trim s) :=
    steady_utterance rfl rfl allBlank_of_reads_gap loose_trim
  have h : EndsSaying (inferenceForm edit kind) _ _ (fun s => Text.ofString (Text.trim s)) _ :=
    withThree_endsSaying
      [name, space, text edit.verb, space, text kind.word, space, text "inference",
        optionalMark [':'], space, sentences, gap, text "|-"]
      hsteady rfl rfl (by cases edit <;> cases kind <;> decide)
      (by simp [Command.isVoid, trim_empty])
  exact h.endsFreely

theorem incompatibilityForm_endsFreely (edit : Edit) : (incompatibilityForm edit).EndsFreely := by
  have h : EndsSaying (incompatibilityForm edit) _ _ sentencesOf _ :=
    withTwo_endsSaying
      [name, space, text edit.verb, space, text "incompatibility", optionalMark [':']]
      steady_enumeration rfl rfl (by cases edit <;> decide)
      (by simp [Command.isVoid, sentencesOf_empty])
  exact h.endsFreely

theorem forms_endFreely : ∀ form ∈ forms, form.EndsFreely := by
  simp only [forms, List.forall_mem_cons]
  exact ⟨endsFreely_of_closed rfl rfl (by decide), endsFreely_of_closed rfl rfl (by decide),
    endsFreely_of_closed rfl rfl (by decide), endsFreely_of_closed rfl rfl (by decide),
    endsFreely_of_closed rfl rfl (by decide), endsFreely_of_closed rfl rfl (by decide),
    endsFreely_of_closed rfl rfl (by decide), endsFreely_of_closed rfl rfl (by decide),
    endsFreely_of_closed rfl rfl (by decide), endsFreely_of_closed rfl rfl (by decide),
    speechForm_endsFreely (by decide) (by simp [Command.isVoid, sentenceOf_empty]),
    speechForm_endsFreely (by decide) (by simp [Command.isVoid, sentenceOf_empty]),
    challengeForm_endsFreely, withdrawForm_endsFreely,
    inferenceForm_endsFreely .add .committive, inferenceForm_endsFreely .add .permissive,
    inferenceForm_endsFreely .remove .committive, inferenceForm_endsFreely .remove .permissive,
    incompatibilityForm_endsFreely .add, incompatibilityForm_endsFreely .remove,
    endsFreely_of_closed rfl rfl (by decide), by simp⟩

/-- Where "list" is left out, the blanks before "agents" are at the beginning of the line. -/
theorem reads_agents (hc : Text.isBlank c = true)
    (h : (sequence [maybe (text "list"), gap, text "agents", gap]).Reads (c :: cs)) :
    (sequence [gap, maybe (text "list"), gap, text "agents", gap]).Reads cs := by
  obtain ⟨list, run, hsplit, hlist, hrun⟩ := Pattern.reads_sequence_cons.mp h
  rcases Pattern.reads_maybe.mp hlist with hlist | rfl
  · have hsolid : Solid list := Pattern.reads_text.mp hlist ▸ (by decide : Solid "list".toList)
    exact absurd hsplit.symm (hsolid.append_ne_cons hc)
  · obtain ⟨blanks, rest, rfl, hblanks, hrest⟩ := Pattern.reads_sequence_cons.mp hrun
    rw [List.nil_append] at hsplit
    cases blanks with
    | nil =>
      obtain ⟨agents, last, rfl, hagents, -⟩ := Pattern.reads_sequence_cons.mp hrest
      have hsolid : Solid agents :=
        Pattern.reads_text.mp hagents ▸ (by decide : Solid "agents".toList)
      exact absurd hsplit.symm (hsolid.append_ne_cons hc)
    | cons d blanks =>
      have hblanks : gap.Reads blanks :=
        reads_gap.mpr (List.forall_mem_cons.mp (reads_gap.mp hblanks)).2
      rw [(List.cons.inj hsplit).2]
      exact Pattern.reads_sequence_cons.mpr ⟨[], _, rfl, reads_gap.mpr Text.allBlank_nil,
        Pattern.reads_sequence_cons.mpr ⟨[], _, rfl, Pattern.reads_maybe.mpr (Or.inr rfl),
          Pattern.reads_sequence_cons.mpr ⟨blanks, rest, rfl, hblanks, hrest⟩⟩⟩

theorem forms_startFreely : ∀ form ∈ forms, form.StartsFreely := by
  simp only [forms, List.forall_mem_cons]
  exact ⟨startsFreely_of_solid rfl (solid_of_reads_anyOf (by simp) (by decide)),
    startsFreely_of_text rfl (by decide), startsFreely_of_reads rfl reads_agents,
    startsFreely_of_text rfl (by decide),
    startsFreely_of_text rfl (by decide), startsFreely_of_text rfl (by decide),
    startsFreely_of_text rfl (by decide), startsFreely_of_solid rfl solid_of_reads_name,
    startsFreely_of_text rfl (by decide), startsFreely_of_text rfl (by decide),
    startsFreely_of_solid rfl solid_of_reads_name, startsFreely_of_solid rfl solid_of_reads_name,
    startsFreely_of_solid rfl solid_of_reads_name, startsFreely_of_solid rfl solid_of_reads_name,
    startsFreely_of_solid rfl solid_of_reads_name, startsFreely_of_solid rfl solid_of_reads_name,
    startsFreely_of_solid rfl solid_of_reads_name, startsFreely_of_solid rfl solid_of_reads_name,
    startsFreely_of_solid rfl solid_of_reads_name, startsFreely_of_solid rfl solid_of_reads_name,
    startsFreely_of_solid rfl solid_of_reads_name, by simp⟩

end Grammar

end Discourse
