import Discourse.Inference
import Discourse.Validation

/-!
# Reading inferences

The premises of an inference are given as anything that has members. Repetitions are dropped
before the members are looked at, so a member that is no sentence is reported once.

* `readPremises`: premises.
* `readInference`: an inference as an object; `readInferences`: a list of them.
-/

namespace Discourse

/-- Premises. -/
def readPremises (medium : Medium) (v : Json) : Reading (List Sentence) :=
  match v.members? with
  | some members => .all (readItems readText 0 (Json.distinct medium members))
  | none => .error .memberless

/-- The inference of its two parts. -/
def inferenceOf : List Sentence × Sentence → Inference
  | (premises, conclusion) => .ofPremises premises conclusion

/-- An inference as an object. -/
def readInference (medium : Medium) : Json → Reading Inference :=
  readFields fun fields =>
    (Reading.both (readFieldD "premises" [] (readPremises medium) fields)
      (readField "conclusion" readText fields)).map inferenceOf

/-- A list of inferences. -/
def readInferences (medium : Medium) : Json → Reading (List Inference) :=
  readList (readInference medium)

/-- An inference as an object, given by the values of its fields. -/
def readInferenceParts (premises conclusion : Json) : Reading Inference :=
  readInference .parts (.object [("premises", premises), ("conclusion", conclusion)])

end Discourse
