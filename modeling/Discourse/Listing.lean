import Discourse.Attribution
import Discourse.Description
import Discourse.Listing.Wrap

/-!
# Listings

Scores and descriptions as plain text, wrapped at a column.

* `set`, `incompatibilities`, `inference`, `challenge`: the parts.
* `score` and `scores`: the three lists of a score, under a heading or bare.
* `agent`: a description.
-/

namespace Discourse.Listing

/-- The items in braces. -/
def set (items : List Text) : Text := "\x7b" ++ Text.intercalate ", " items ++ "\x7d"

/-- Several sets in a row. -/
def incompatibilities (sets : List (List Text)) : Text := Text.intercalate "; " (sets.map set)

/-- An inference with its premises in braces. -/
def inference (i : Inference) : Text := set i.premises.toList ++ " |- " ++ i.conclusion

/-- Several inferences in a row. -/
def inferences (is : List Inference) : Text := Text.intercalate "; " (is.map inference)

/-- Whom a challenge is shown to be against. -/
def challenged (name : Option Text) : Text :=
  match name with
  | none => "a departed agent"
  | some name => if name.isEmpty then "a departed agent" else name

/-- A challenge in words. -/
def challenge (targetName : Option Text) (sentence : Sentence) : Text :=
  "challenged " ++ challenged targetName ++ "'s entitlement to \"" ++ sentence ++ "\""

/-- The lists of a score. -/
def score (s : Score) (width : Int) : Text :=
  wrap ("\nCommitments:  " ++ set s.commitments) width ++
    wrap ("\nEntitlements: " ++ set s.entitlements) width ++
    wrap ("\nIncompatibles: " ++ incompatibilities s.incompatibles) width ++ "\n\n"

/-- Several scores, each under the names it is about. -/
def scores (all : List Score) (width : Int) : Text :=
  Text.join (all.map fun s => s.keeper ++ "'s score on " ++ s.other ++ score s width)

/-- A description. -/
def agent (d : Description) (width : Int) : Text :=
  d.name ++ "\nIntelligence = " ++ toString d.intelligence ++
    wrap ("\nCommitments avowed: " ++ set d.avowed) width ++
    wrap ("\nSets taken to be incompatible: " ++ incompatibilities d.incompatibilities) width ++
    wrap ("\nCommittive inferences accepted: " ++ inferences d.committive) width ++
    wrap ("\nPermissive inferences accepted: " ++ inferences d.permissive) width ++
    wrap ("\nChallenges issued: " ++
      Text.intercalate "; " (d.challenges.map fun c => challenge c.targetName c.sentence)) width ++
    "\n"

end Discourse.Listing
