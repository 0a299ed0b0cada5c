import Discourse.Inference.Reading
import Discourse.Snapshot

/-!
# Reading snapshots

A snapshot as a structured value. Fields that are not known are passed over; lists may be left
out.

* `readSnapshot`: the whole.
* `readAgentRecord`, `readExchange`: its parts.
-/

namespace Discourse

/-- The lists of sentences. -/
def readSentences : Json → Reading (List Sentence) := readList readText

/-- A challenge as a pair. -/
def readChallenge (v : Json) : Reading Challenge :=
  (readPair readId readText v).map fun (target, sentence) => ⟨target, sentence⟩

/-- The state of one agent. -/
def readAgentRecord (medium : Medium) : Json → Reading AgentRecord :=
  readFields fun fields =>
    (Reading.both (readField "agent_id" readId fields)
      (.both (readField "name" readText fields)
        (.both (readField "intelligence" (readNatFrom 0) fields)
          (.both (readFieldD "commitments_avowed" [] readSentences fields)
            (.both (readFieldD "incompatibilities" [] (readList readSentences) fields)
              (.both (readFieldD "committive_inferences" [] (readInferences medium) fields)
                (.both (readFieldD "permissive_inferences" [] (readInferences medium) fields)
                  (readFieldD "challenges_issued" [] (readList readChallenge) fields)))))))).map
      fun (id, name, intelligence, avowed, incompatibilities, committive, permissive,
          challenges) =>
        { id, name, intelligence, avowed, incompatibilities, committive, permissive, challenges }

/-- One command and the answer to it. -/
def readExchange (medium : Medium) : Json → Reading Exchange :=
  readFields fun fields =>
    (Reading.both (readField "input" readText fields)
      (.both (readField "output" readText fields)
        (readFieldD "timestamp" () (readTime medium) fields))).map
      fun (input, output, _) => ⟨input, output⟩

/-- How deeply the lists and objects of a text may stand inside one another. -/
def mostDepth : Nat := 200

/-- The state of a game. A text that is too deep is not read at all. -/
def readSnapshot (medium : Medium) (v : Json) : Reading Snapshot :=
  if medium = .text ∧ mostDepth < v.depth then .fail .unreadable
  else
    readFields
      (fun fields =>
        (Reading.both (readFieldD "agents" [] (readList (readAgentRecord medium)) fields)
          (readFieldD "transcript" [] (readList (readExchange medium)) fields)).map
          fun (agents, transcript) => ⟨agents, transcript⟩)
      v

end Discourse
