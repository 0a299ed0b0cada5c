import Discourse.Inference

/-!
# Commands

What a line can ask for. Agents are called by name, and a sentence is what a line says once
double quotes and the blanks around it are gone.

* `Command`: one constructor for each thing that can be asked for.
* `Edit`: adding or removing a rule, and `Edit.verb`, the word for it.
-/

namespace Discourse

/-- What happens to a rule. -/
inductive Edit where
  | add
  | remove
  deriving DecidableEq, Repr

/-- The word for it in a command. -/
def Edit.verb : Edit → String
  | .add => "adds"
  | .remove => "removes"

/-- A set after an edit. -/
def Edit.apply {α : Type} [BEq α] : Edit → α → OrderedSet α → OrderedSet α
  | .add, a, s => s.insert a
  | .remove, a, s => s.erase a

/-- The word for a kind of inference in a command. -/
def InferenceKind.word : InferenceKind → String
  | .committive => "committive"
  | .permissive => "permissive"

/-- What a line asks for. -/
inductive Command where
  | quit
  | help
  | listAgents
  | addAgent (name : String)
  | removeAgent (name : String)
  | newGame
  | score (keeper other : String)
  | scoreAll
  /-- The depth is a run of decimal digits, which may be too long to be read. -/
  | setIntelligence (name digits : String)
  | assert (speaker : String) (sentence : Sentence)
  | disavow (speaker : String) (sentence : Sentence)
  | challenge (speaker target : String) (sentence : Sentence)
  | withdraw (speaker target : String) (sentence : Sentence)
  | editInference (speaker : String) (edit : Edit) (kind : InferenceKind)
      (premises : List Sentence) (conclusion : Sentence)
  | editIncompatibility (speaker : String) (edit : Edit) (sentences : List Sentence)
  | describe (name : String)
  deriving DecidableEq, Repr

end Discourse
