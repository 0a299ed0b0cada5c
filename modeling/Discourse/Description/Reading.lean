import Discourse.Description
import Discourse.Snapshot.Reading

/-!
# Reading descriptions

A description as a structured value. Unlike the depth of an agent in a game, the reasoning depth
of a description may be any integer.

* `readDescription`: the whole; lists may be left out.
* `readChallengeView`: a challenge in it.
-/

namespace Discourse

/-- A challenge with its target's name. -/
def readChallengeView : Json → Reading ChallengeView :=
  readFields fun fields =>
    (Reading.both (readField "target" readId fields)
      (.both (readFieldD "target_name" none (readNullable readText) fields)
        (readField "sentence" readText fields))).map
      fun (target, targetName, sentence) => ⟨target, targetName, sentence⟩

/-- The rules and commitments of one agent. -/
def readDescription : Json → Reading Description :=
  readFields fun fields =>
    (Reading.both (readField "name" readText fields)
      (.both (readField "intelligence" readInteger fields)
        (.both (readFieldD "commitments_avowed" [] readSentences fields)
          (.both (readFieldD "incompatibilities" [] (readList readSentences) fields)
            (.both (readFieldD "committive_inferences" [] (readInferences .parts) fields)
              (.both (readFieldD "permissive_inferences" [] (readInferences .parts) fields)
                (readFieldD "challenges_issued" [] (readList readChallengeView)
                  fields))))))).map
      fun (name, intelligence, avowed, incompatibilities, committive, permissive, challenges) =>
        { name, intelligence, avowed, incompatibilities, committive, permissive, challenges }

end Discourse
