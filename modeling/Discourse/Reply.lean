import Discourse.Listing

/-!
# Replies

What is answered to a line, and in which words.

* `Reply`: one constructor for each kind of answer.
* `Reply.text`: the answer as text, listings wrapped at a column.
* `Reply.isRefusal`: the answers that say that nothing was done.
-/

namespace Discourse

/-- An answer to a line. -/
inductive Reply where
  | goodbye
  | help
  /-- A new game has begun. -/
  | welcome
  | descriptions (ds : List Description)
  | added (name : Text)
  | nameTaken (name : Text)
  | removed (name : Text)
  | nobodyNamed (name : Text)
  | score (s : Score)
  | scores (all : List Score)
  | agentNotFound (name : Text)
  | notAsserted (speaker : Text) (sentence : Sentence)
  | neverAsserted (target : Text) (sentence : Sentence)
  /-- One agent, and the score it keeps on itself. -/
  | portrait (d : Description) (self : Score)
  | notRecognized

namespace Reply

/-- The answer to whoever leaves. -/
def goodbyeText : String := "Goodbye.\n"

/-- The greeting at the beginning of a game. -/
def welcomeText : String :=
  "\nWelcome to the game of giving and asking for reasons,\n" ++
  "a simulation of the linguistic scorekeeping dynamics\n" ++
  "described in chapter 3 of Robert Brandom's book\n" ++
  "Making It Explicit (Harvard University Press, 1994).\n\n" ++
  "For a list of sample commands, type help\n\n"

/-- One example of each command. -/
def helpText : String :=
  "\nlist agents\n" ++
  "add agent Sal\n" ++
  "remove agent Bob\n" ++
  "new game\n" ++
  "score\n" ++
  "Bob's score on Ann\n" ++
  "Bob asserts A is red\n" ++
  "Bob disavows A is red\n" ++
  "Ann challenges Bob's entitlement to A is red\n" ++
  "Ann abandons his challenge to Bob's entitlement to A is red\n" ++
  "Bob adds committive inference: A is red; A is small |- A is dangerous\n" ++
  "Bob adds incompatibility: \x7bA is red; A is yellow\x7d\n" ++
  "Ann removes incompatibility: \x7bA is blue; A is red\x7d\n" ++
  "Ann removes permissive inference: A is small; A is blue |- A is edible\n" ++
  "set intelligence of Bob to 2\n" ++
  "Ann\n" ++
  "help\n" ++
  "quit\n\n"

/-- What is said of a name that nobody has. -/
def notFoundText (name : Text) : Text :=
  "Agent " ++ name ++ " not found. Try: list agents\n"

/-- The answer in words, listings wrapped at `width`. -/
def text (width : Int) : Reply → Text
  | goodbye => goodbyeText
  | help => helpText
  | welcome => welcomeText
  | descriptions ds => Text.intercalate "\n" (ds.map (Listing.agent · width))
  | added name => "Agent " ++ name ++ " added.\n"
  | nameTaken name => "An agent named " ++ name ++ " already exists.\n"
  | removed name => "Agent " ++ name ++ " removed.\n"
  | nobodyNamed name => "There is no agent named " ++ name ++ ".\n"
  | score s => Listing.score s width
  | scores all => Listing.scores all width
  | agentNotFound name => notFoundText name
  | notAsserted speaker sentence =>
    "Agent " ++ speaker ++ " has not asserted \"" ++ sentence ++ "\"\n"
  | neverAsserted target sentence => target ++ " never asserted \"" ++ sentence ++ "\"\n"
  | portrait d self => Listing.agent d width ++ "\n" ++ Listing.score self width
  | notRecognized => "Command not recognized.  Try: help\n"

/-- Whether the answer says that nothing was done. -/
def isRefusal : Reply → Bool
  | nameTaken _ | nobodyNamed _ | agentNotFound _ | notAsserted _ _ | neverAsserted _ _
  | notRecognized => true
  | _ => false

end Reply

end Discourse
