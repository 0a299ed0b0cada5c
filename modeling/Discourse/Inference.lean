import Discourse.OrderedSet
import Discourse.Text

/-!
# Rules

The rules by which an agent keeps score. An inference leads from premises to a conclusion; an
incompatibility is a set of sentences that cannot all be held together. Sentences are opaque:
they are only ever compared with each other.

* `Inference.fires`: a basis holds all the premises.
* `RuleBook`: what one agent reasons with.

Two inferences are equal when their premises are equal as sets and they have one conclusion; the
order of the premises is kept for display.
-/

namespace Discourse

/-- A sentence of the game. -/
abbrev Sentence := Text

/-- A step from premises to a conclusion. -/
structure Inference where
  /-- The sentences that must all be held. -/
  premises : OrderedSet Sentence
  /-- The sentence that then follows. -/
  conclusion : Sentence

namespace Inference

instance : BEq Inference :=
  ⟨fun i j => i.premises == j.premises && i.conclusion == j.conclusion⟩

instance : Inhabited Inference := ⟨⟨∅, ""⟩⟩

theorem beq_def (i j : Inference) :
    (i == j) = (i.premises == j.premises && i.conclusion == j.conclusion) := rfl

/-- The inference with the premises as they are listed, repetitions dropped. -/
def ofPremises (premises : List Sentence) (conclusion : Sentence) : Inference :=
  ⟨.ofList premises, conclusion⟩

/-- Whether the basis holds every premise. -/
def fires (i : Inference) (basis : OrderedSet Sentence) : Bool := i.premises.isSubset basis

end Inference

/-- Sentences that cannot all be held together. -/
abbrev Incompatibility := OrderedSet Sentence

/-- Whether a rule carries commitment, or permission only. -/
inductive InferenceKind where
  | committive
  | permissive
  deriving DecidableEq, Repr

/-- The rules of one agent. -/
structure RuleBook where
  /-- Whoever holds the premises is committed, and entitled, to the conclusion. -/
  committive : OrderedSet Inference
  /-- Whoever holds the premises and is entitled to them is entitled to the conclusion. -/
  permissive : OrderedSet Inference
  incompatibilities : OrderedSet Incompatibility

namespace RuleBook

instance : Inhabited RuleBook := ⟨⟨∅, ∅, ∅⟩⟩

/-- The inferences of one kind. -/
def inferences (rules : RuleBook) : InferenceKind → OrderedSet Inference
  | .committive => rules.committive
  | .permissive => rules.permissive

/-- The rules after a change to the inferences of one kind. -/
def changeInferences (rules : RuleBook) (kind : InferenceKind)
    (change : OrderedSet Inference → OrderedSet Inference) : RuleBook :=
  match kind with
  | .committive => { rules with committive := change rules.committive }
  | .permissive => { rules with permissive := change rules.permissive }

/-- The rules after a change to the incompatibilities. -/
def changeIncompatibilities (rules : RuleBook)
    (change : OrderedSet Incompatibility → OrderedSet Incompatibility) : RuleBook :=
  { rules with incompatibilities := change rules.incompatibilities }

end RuleBook

end Discourse
