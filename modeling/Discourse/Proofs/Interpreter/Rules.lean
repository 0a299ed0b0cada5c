import Discourse.Proofs.Command.Effect
import Discourse.Proofs.Command.Rule
import Discourse.Proofs.Game.Newcomers
import Discourse.Proofs.Interpreter.Line
import Discourse.Proofs.Listing.Spelling

/-!
# Editing rules in words

An agent that is called by a word can have its rules edited in a line, and every spelling of the
rule edits the same rule: added, it joins unless an equal one is there; removed, whatever equals it
goes.

* `Edit.Makes`: what an edit makes of a set.
* `Interpreter.EditsAsWritten`: what the lines come to that edit the rules of an agent.
* `Interpreter.edits_as_written`: every spelling edits the rule that it says.
-/

namespace Discourse

open Spelling (IsName Clean InferenceLine IncompatibilityLine)

/-! ## What an edit makes of a set -/

/-- The edit makes `t` of `s`, whichever of the things that equal `x` it is about. -/
def Edit.Makes {α : Type} [BEq α] (edit : Edit) (x : α) (s t : OrderedSet α) : Prop :=
  match edit with
  | .add => (x ∈ s → t = s) ∧ (x ∉ s → ∃ y, (y == x) = true ∧ t.toList = s.toList ++ [y])
  | .remove => t.toList = s.toList.filter fun y => !(y == x)

theorem Edit.makes_apply {α : Type} [BEq α] [EquivBEq α] (edit : Edit) {x y : α}
    (h : (y == x) = true) (s : OrderedSet α) : edit.Makes x s (edit.apply y s) := by
  cases edit with
  | add =>
    refine ⟨fun hmem => ?_, fun hmem => ⟨y, h, ?_⟩⟩
    · exact OrderedSet.insert_of_mem ((OrderedSet.mem_congr h).mpr hmem)
    · refine OrderedSet.toList_insert_of_not_contains
        (OrderedSet.not_mem_iff_contains_eq_false.mp fun hy => hmem ?_)
      exact (OrderedSet.mem_congr h).mp hy
  | remove =>
    refine List.filter_congr fun z _ => congrArg (!·) ?_
    exact BEq.congr_right h

/-! ## What the lines come to -/

namespace Interpreter

variable {it : Interpreter} {p : Play} {speaker line : String} {a : Agent}

/-- A line that edits the rules of somebody present edits those, and nothing else. -/
theorem agents_execute_editInference {edit : Edit} {kind : InferenceKind}
    {premises : List Sentence} {conclusion : Sentence} (ha : p.game.agentNamed? speaker = some a)
    (hparse : Command.parse? line = some (.editInference speaker edit kind premises conclusion)) :
    (it.execute p line).2.game.agents =
      (p.game.modifyNamed speaker (·.changeInferences kind fun _ =>
        edit.apply (.ofPremises premises conclusion) (a.rules.inferences kind))).agents := by
  rw [agents_execute_of_parse? it p hparse]
  dsimp only [Command.run]
  rw [Play.change_snd]
  refine Game.modifyFirst_congr fun b hb => ?_
  cases ha.symm.trans hb
  cases kind <;> rfl

theorem agents_execute_editIncompatibility {edit : Edit} {sentences : List Sentence}
    (ha : p.game.agentNamed? speaker = some a)
    (hparse : Command.parse? line = some (.editIncompatibility speaker edit sentences)) :
    (it.execute p line).2.game.agents = (p.game.modifyNamed speaker
      (·.changeIncompatibilities fun _ =>
        edit.apply (.ofList sentences) a.rules.incompatibilities)).agents := by
  rw [agents_execute_of_parse? it p hparse]
  dsimp only [Command.run]
  rw [Play.change_snd]
  refine Game.modifyFirst_congr fun b hb => ?_
  cases ha.symm.trans hb
  rfl

/-- However it is written, a line that adds or removes a rule of the agent of the name does so. -/
structure EditsAsWritten (it : Interpreter) (p : Play) (speaker : String) (a : Agent) : Prop where
  inference : ∀ {premises : List String} {conclusion : String}, (∀ s ∈ premises, Clean s) →
    Clean conclusion → ∀ (edit : Edit) (kind : InferenceKind) (w : InferenceLine),
    w.rule.Says premises conclusion → ∃ rules,
      edit.Makes (.ofPremises (premises.map Text.ofString) conclusion) (a.rules.inferences kind)
        rules ∧
      (it.execute p (w.line speaker edit kind)).2.game.agents =
        (p.game.modifyNamed speaker (·.changeInferences kind fun _ => rules)).agents
  incompatibility : ∀ {sentences : List String}, (∀ s ∈ sentences, Clean s) →
    ∀ (edit : Edit) (w : IncompatibilityLine), w.rule.Says sentences → ∃ rules,
      edit.Makes (.ofList (sentences.map Text.ofString)) a.rules.incompatibilities rules ∧
      (it.execute p (w.line speaker edit)).2.game.agents =
        (p.game.modifyNamed speaker (·.changeIncompatibilities fun _ => rules)).agents

theorem mem_map_ofString {items sentences : List String} (h : ∀ s, s ∈ items ↔ s ∈ sentences)
    (t : Sentence) : t ∈ items.map Text.ofString ↔ t ∈ sentences.map Text.ofString := by
  simp only [List.mem_map, h]

/-- Whoever is called by a word has its rules edited as is written, and every rule is shown in words
that can be written. -/
theorem edits_as_written (it : Interpreter) (p : Play) (ha : p.game.agentNamed? speaker = some a)
    (hname : IsName speaker) : it.EditsAsWritten p speaker a ∧ Spelling.ShownAsWritten := by
  refine ⟨⟨?_, ?_⟩, Spelling.shownAsWritten⟩
  · intro premises conclusion hpremises hconclusion edit kind w hsays
    obtain ⟨hitems, rfl⟩ := hsays
    have hparse : Command.parse? (w.line speaker edit kind) = some _ :=
      Command.parse?_inferenceLine w hname (fun s hs => hpremises s ((hitems s).mp hs)) hconclusion
    exact ⟨_, edit.makes_apply (Inference.ofPremises_beq_ofPremises (mem_map_ofString hitems)) _,
      agents_execute_editInference ha hparse⟩
  · intro sentences hsentences edit w hitems
    have hparse : Command.parse? (w.line speaker edit) = some _ :=
      Command.parse?_incompatibilityLine w hname fun s hs => hsentences s ((hitems s).mp hs)
    exact ⟨_, edit.makes_apply (OrderedSet.ofList_beq_ofList (mem_map_ofString hitems)) _,
      agents_execute_editIncompatibility ha hparse⟩

/-- How Bob may add a rule. -/
example :
    let rule : Spelling.InferenceText :=
      { premises := .shown "A is hot" ["A is red"], conclusion := "A is glowing", period := true }
    InferenceLine.line { colon := true, rule } "Bob" .add .committive =
      "Bob adds committive inference: \x7bA is hot, A is red\x7d |- A is glowing." := by
  decide

theorem edits_as_written_bob :
    let p := playAfter {} {} ["new game"]
    ∃ a, p.game.agentNamed? "Bob" = some a ∧ IsName "Bob" ∧ EditsAsWritten {} p "Bob" a ∧
      Spelling.ShownAsWritten := by
  intro p
  have hsome : (p.game.agentNamed? "Bob").isSome = true := by decide +kernel
  obtain ⟨a, ha⟩ := Option.isSome_iff_exists.mp hsome
  exact ⟨a, ha, by decide, edits_as_written {} p ha (by decide)⟩

/-- An agent whose name is no word. -/
def maryAnn : Agent := .newcomer {} "Mary Ann" ⟨1⟩

/-- A line that adds a rule. -/
def hotIsRed : InferenceLine := .plain "A is hot" [] "A is red"

/-- An agent can have a name that is no word, and then no line edits its rules. -/
theorem not_every_agent_edits_as_written :
    ¬ ∀ (it : Interpreter) (p : Play) (speaker : String) (a : Agent),
      p.game.agentNamed? speaker = some a → it.EditsAsWritten p speaker a := by
  intro hall
  have hcalled : Game.hasName "Mary Ann" maryAnn = true := by decide +kernel
  have hclean : ∀ s ∈ ["A is hot"], Clean s := by decide +kernel
  have hsays : hotIsRed.rule.Says ["A is hot"] "A is red" := ⟨fun _ => Iff.rfl, rfl⟩
  have hnew : Inference.ofPremises (["A is hot"].map Text.ofString) "A is red" ∉
      maryAnn.rules.inferences .committive := by decide +kernel
  have hparse : Command.parse? (hotIsRed.line "Mary Ann" .add .committive) = none := by
    decide +kernel
  have hedits : EditsAsWritten {} ⟨⟨[maryAnn], []⟩, ⟨1⟩⟩ "Mary Ann" maryAnn :=
    hall {} _ "Mary Ann" maryAnn (List.find?_cons_of_pos hcalled)
  obtain ⟨rules, ⟨-, hmakes⟩, hagents⟩ :=
    hedits.inference hclean (by decide +kernel) .add .committive hotIsRed hsays
  obtain ⟨y, -, hlist⟩ := hmakes hnew
  -- No form reads the line, so the rules would have to be what they were.
  rw [agents_execute, reply, hparse, Game.modifyNamed, Game.modifyFirst, if_pos hcalled] at hagents
  have hrules : maryAnn.rules.committive = rules :=
    congrArg (·.rules.committive) (List.cons.inj hagents).1
  have hlength := congrArg List.length (hrules ▸ hlist)
  simp [RuleBook.inferences] at hlength

end Interpreter

end Discourse
