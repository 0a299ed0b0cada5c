import Discourse.Command.Grammar
import Discourse.Proofs.Command.Material

/-!
# What a line can ask for

Whatever a line asks for is put together from pieces of it, and these are strings.

* `Command.Readable`: the sentences of a command are cut out of strings.
* `Grammar.Form.Yields`: every command of a form has a property.
* `Command.madeOf_of_parse?`: a command that is read is of any material that has all strings.
-/

namespace Discourse

/-- The sentences of the command are cut out of strings. -/
def Command.Readable : Command → Prop
  | .assert _ s | .disavow _ s | .challenge _ _ s | .withdraw _ _ s =>
    ∃ text : String, s = sentenceOf text
  | .editInference _ _ _ premises conclusion =>
    (∃ text : String, premises = sentencesOf text) ∧ ∃ text : String, conclusion = text
  | .editIncompatibility _ _ sentences => ∃ text : String, sentences = sentencesOf text
  | _ => True

/-! ## Forms -/

namespace Grammar

/-- Every command that the form can give has the property. -/
def Form.Yields (form : Form) (property : Command → Prop) : Prop :=
  ∀ parts c, form.command? parts = some c → property c

variable {property : Command → Prop} {parts : List Pattern}

theorem bare_yields {c : Command} (h : property c) : (bare parts c).Yields property := by
  intro kept d hd
  match kept with
  | [] =>
    cases hd
    exact h
  | _ :: _ => cases hd

theorem withOne_yields {c : String → Command} (h : ∀ a, property (c a)) :
    (withOne parts c).Yields property := by
  intro kept d hd
  match kept with
  | [a] =>
    cases hd
    exact h a
  | [] | _ :: _ :: _ => cases hd

theorem withTwo_yields {c : String → String → Command} (h : ∀ a b, property (c a b)) :
    (withTwo parts c).Yields property := by
  intro kept d hd
  match kept with
  | [a, b] =>
    cases hd
    exact h a b
  | [] | [_] | _ :: _ :: _ :: _ => cases hd

theorem withThree_yields {c : String → String → String → Command}
    (h : ∀ a b d, property (c a b d)) : (withThree parts c).Yields property := by
  intro kept d hd
  match kept with
  | [a, b, d] =>
    cases hd
    exact h a b d
  | [] | [_] | [_, _] | _ :: _ :: _ :: _ :: _ => cases hd

theorem inferenceForm_yields (edit : Edit) (kind : InferenceKind) :
    (inferenceForm edit kind).Yields Command.Readable :=
  withThree_yields fun _ premises conclusion => ⟨⟨premises, rfl⟩, ⟨Text.trim conclusion, rfl⟩⟩

theorem incompatibilityForm_yields (edit : Edit) :
    (incompatibilityForm edit).Yields Command.Readable :=
  withTwo_yields fun _ sentences => ⟨sentences, rfl⟩

theorem forms_yield : ∀ form ∈ forms, form.Yields Command.Readable := by
  simp only [forms, List.forall_mem_cons]
  exact ⟨bare_yields trivial, bare_yields trivial, bare_yields trivial,
    withOne_yields fun _ => trivial, withOne_yields fun _ => trivial, bare_yields trivial,
    withTwo_yields fun _ _ => trivial, withTwo_yields fun _ _ => trivial, bare_yields trivial,
    withTwo_yields fun _ _ => trivial,
    withTwo_yields fun _ s => ⟨s, rfl⟩, withTwo_yields fun _ s => ⟨s, rfl⟩,
    withThree_yields fun _ _ s => ⟨s, rfl⟩, withThree_yields fun _ _ s => ⟨s, rfl⟩,
    inferenceForm_yields .add .committive, inferenceForm_yields .add .permissive,
    inferenceForm_yields .remove .committive, inferenceForm_yields .remove .permissive,
    incompatibilityForm_yields .add, incompatibilityForm_yields .remove,
    withOne_yields fun _ => trivial, by simp⟩

end Grammar

/-! ## Lines -/

namespace Command

variable {line : String} {c : Command}

/-- The sentences of a command that is read are cut out of strings. -/
theorem readable_of_parse? (h : parse? line = some c) : c.Readable := by
  obtain ⟨form, hform, hread⟩ := List.exists_of_findSome?_eq_some h
  obtain ⟨kept, -, hc⟩ := Option.bind_eq_some_iff.mp hread
  exact Grammar.forms_yield form hform kept c hc

variable {m : Material}

theorem text_sentencesOf (ht : ∀ s : String, m.text s) (s : String) :
    ∀ t ∈ sentencesOf s, m.text t := by
  intro t h
  obtain ⟨piece, -, rfl⟩ := List.mem_map.mp h
  exact ht _

/-- A command that is read is of any material that has all strings and all depths. -/
theorem madeOf_of_parse? (ht : ∀ s : String, m.text s) (hd : ∀ n, m.depth n)
    (h : parse? line = some c) : c.MadeOf m := by
  have hread := readable_of_parse? h
  cases c with
  | quit | help | listAgents | newGame | scoreAll => trivial
  | addAgent name | removeAgent name | describe name => exact ht name
  | score keeper other => exact ⟨ht keeper, ht other⟩
  | setIntelligence name digits => exact ⟨ht name, fun n _ => hd n⟩
  | assert speaker | disavow speaker =>
    obtain ⟨text, rfl⟩ := hread
    exact ⟨ht speaker, ht _⟩
  | challenge speaker target | withdraw speaker target =>
    obtain ⟨text, rfl⟩ := hread
    exact ⟨ht speaker, ht target, ht _⟩
  | editInference speaker =>
    obtain ⟨⟨premises, rfl⟩, ⟨conclusion, rfl⟩⟩ := hread
    exact ⟨ht speaker, text_sentencesOf ht premises, ht conclusion⟩
  | editIncompatibility speaker =>
    obtain ⟨sentences, rfl⟩ := hread
    exact ⟨ht speaker, text_sentencesOf ht sentences⟩

end Command

end Discourse
