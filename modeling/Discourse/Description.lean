import Discourse.Agent

/-!
# Descriptions

What is shown of one agent: its name and reasoning depth, its avowed commitments, its rules, and
its challenges with the names of those challenged. A description holds plain lists, because it is
also taken from outside.
-/

namespace Discourse

/-- A challenge with its target's name, if the target is still there. -/
structure ChallengeView where
  target : AgentId
  targetName : Option Text := none
  sentence : Sentence
  deriving DecidableEq, Repr, Inhabited

/-- The rules and commitments of one agent as they are shown. -/
structure Description where
  name : Text
  intelligence : Int
  avowed : List Sentence := []
  incompatibilities : List (List Sentence) := []
  committive : List Inference := []
  permissive : List Inference := []
  challenges : List ChallengeView := []

instance : Inhabited Description := ⟨{ name := "", intelligence := 0 }⟩

end Discourse
