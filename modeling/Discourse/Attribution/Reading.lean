import Discourse.Attribution
import Discourse.Snapshot.Reading

/-!
# Reading scores

A score as a structured value.

* `readScore`: the whole; lists may be left out.
-/

namespace Discourse

/-- What one agent attributes to another. -/
def readScore : Json → Reading Score :=
  readFields fun fields =>
    (Reading.both (readField "scorekeeper" readText fields)
      (.both (readField "other" readText fields)
        (.both (readFieldD "commitments" [] readSentences fields)
          (.both (readFieldD "entitlements" [] readSentences fields)
            (readFieldD "incompatibles" [] (readList readSentences) fields))))).map
      fun (keeper, other, commitments, entitlements, incompatibles) =>
        { keeper, other, commitments, entitlements, incompatibles }

end Discourse
