import Discourse.Text

/-!
# Refusals of the game

Why the game refuses an operation, and in which words.
-/

namespace Discourse

/-- Why an operation on the game is refused. -/
inductive GameError where
  /-- The name is taken, in whatever case. -/
  | duplicateName (name : Text)
  /-- Nobody in the game has the name. -/
  | agentNotFound (name : Text)
  /-- Reasoning depth cannot be negative. -/
  | negativeIntelligence (value : Int)
  deriving DecidableEq, Repr

/-- The refusal in words. -/
def GameError.message : GameError → Text
  | .duplicateName name => "An agent named " ++ name ++ " already exists"
  | .agentNotFound name => "There is no agent named " ++ name
  | .negativeIntelligence value => "intelligence must be >= 0, got " ++ toString value

end Discourse
