import Discourse.Proofs.AgentId
import Discourse.Proofs.Game.Material
import Discourse.Proofs.Json.Depth
import Discourse.Proofs.Json.RoundTrip
import Discourse.Proofs.Snapshot.Rebuilding
import Discourse.Proofs.Text.Whole
import Discourse.Proofs.Validation
import Discourse.Snapshot.Writing

/-!
# Reading back the text of a snapshot

A snapshot is written as a structured value, the value as text, and each step is undone: the text
gives the value, the value the snapshot, and the snapshot the game.

* `Material.storable`: the texts, identifiers and depths that a text can hold.
* `readSnapshot_toJson`: the snapshot is read back from its value.
* `isLegible_toJson`: the value is read back from its text.
* `Game.reload_eq`: a game of storable material is read back from its text.
-/

namespace Discourse

/-- Texts that consist of characters, identifiers of 128 bits, and depths that have not too many
digits. -/
def Material.storable : Material where
  text t := t.isWhole = true
  id := AgentId.IsProper
  depth n := n < 10 ^ Text.maxDigits
  said t := t.isWhole = true

instance : DecidablePred Material.storable.text :=
  fun t => inferInstanceAs (Decidable (t.isWhole = true))
instance : DecidablePred Material.storable.id :=
  fun id => inferInstanceAs (Decidable id.IsProper)
instance : DecidablePred Material.storable.depth :=
  fun n => inferInstanceAs (Decidable (n < 10 ^ Text.maxDigits))
instance : DecidablePred Material.storable.said :=
  fun t => inferInstanceAs (Decidable (t.isWhole = true))

variable {a : Agent} {g : Game}

/-! ## From the value -/

theorem readSentences_texts (ts : List Sentence) : readSentences (.texts ts) = .ok ts :=
  readList_map fun _ _ => rfl

theorem readId_text {id : AgentId} (h : id.IsProper) : readId (.text id.text) = .ok id := by
  rw [readId, Text.toString?_ofString, Option.bind_some, AgentId.read?_text h]

theorem readChallenge_toJson {c : Challenge} (h : c.target.IsProper) :
    readChallenge c.toJson = .ok c := by
  rw [Challenge.toJson, readChallenge, readPair, readId_text h]
  rfl

theorem readInference_toJson (medium : Medium) (i : Inference) :
    readInference medium i.toJson = .ok i := by
  have hpremises : readPremises medium (.texts i.premises.toList) = .ok i.premises.toList :=
    readPremises_texts medium (OrderedSet.nodup_toList i.premises)
  simp [Inference.toJson, readInference, readFields, readField, readFieldD, Json.getField?,
    hpremises, readText, Reading.both, Except.map, inferenceOf, Inference.ofPremises]

theorem readInferences_map (medium : Medium) (is : List Inference) :
    readInferences medium (.list (is.map Inference.toJson)) = .ok is :=
  readList_map fun i _ => readInference_toJson medium i

/-- The lists of an agent are read back. -/
theorem readAgentRecord_toJson (medium : Medium) {r : AgentRecord} (hid : r.id.IsProper)
    (hchallenges : ∀ c ∈ r.challenges, c.target.IsProper) :
    readAgentRecord medium r.toJson = .ok r := by
  have hincompatibilities : readList readSentences (.list (r.incompatibilities.map .texts)) =
      .ok r.incompatibilities := readList_map fun ts _ => readSentences_texts ts
  have hchallenges : readList readChallenge (.list (r.challenges.map Challenge.toJson)) =
      .ok r.challenges := readList_map fun c hc => readChallenge_toJson (hchallenges c hc)
  simp [AgentRecord.toJson, readAgentRecord, readFields, readField, readFieldD, Json.getField?,
    readId_text hid, readText, readNatFrom_integer, readSentences_texts, hincompatibilities,
    readInferences_map, hchallenges, Reading.both, Except.map]

theorem readExchange_toJson (medium : Medium) (e : Exchange) :
    readExchange medium e.toJson = .ok e := by
  simp [Exchange.toJson, readExchange, readFields, readField, readFieldD, Json.getField?,
    readText, Reading.both, Except.map]

/-! ## Depth -/

theorem Json.depth_texts_le (ts : List Text) : (texts ts).depth ≤ 1 :=
  depth_listMap_le ts fun _ => Nat.le_refl 0

theorem Inference.depth_toJson_le (i : Inference) : i.toJson.depth ≤ 2 := by
  have hp := Json.depth_texts_le i.premises.toList
  refine Json.depth_object_le ?_
  simp [hp, Json.depth]

theorem Challenge.depth_toJson_le (c : Challenge) : c.toJson.depth ≤ 1 := by
  refine Json.depth_list_le ?_
  simp [Json.depth]

theorem AgentRecord.depth_toJson_le (r : AgentRecord) : r.toJson.depth ≤ 4 := by
  have hi := Json.depth_listMap_le r.incompatibilities Json.depth_texts_le
  have hc := Json.depth_listMap_le r.committive Inference.depth_toJson_le
  have hp := Json.depth_listMap_le r.permissive Inference.depth_toJson_le
  have hs := Json.depth_listMap_le r.challenges Challenge.depth_toJson_le
  have ha := Json.depth_texts_le r.avowed
  refine Json.depth_object_le ?_
  simp only [List.forall_mem_cons, Json.depth]
  refine ⟨?_, ?_, ?_, ?_, ?_, ?_, ?_, ?_, ?_⟩ <;> first | omega | simp

theorem Snapshot.depth_toJson_le (s : Snapshot) : s.toJson.depth ≤ mostDepth := by
  have hexchange : ∀ e : Exchange, e.toJson.depth ≤ 4 := by
    intro e
    refine Json.depth_object_le ?_
    simp [Json.depth]
  have ha := Json.depth_listMap_le s.agents AgentRecord.depth_toJson_le
  have ht := Json.depth_listMap_le s.transcript hexchange
  have hs : s.toJson.depth ≤ 6 := by
    refine Json.depth_object_le ?_
    simp [ha, ht]
  exact Nat.le_trans hs (by decide)

/-! ## The snapshot -/

/-- A snapshot is read back from its value. -/
theorem readSnapshot_toJson (medium : Medium) {s : Snapshot}
    (hagents : ∀ r ∈ s.agents, r.id.IsProper ∧ ∀ c ∈ r.challenges, c.target.IsProper) :
    readSnapshot medium s.toJson = .ok s := by
  have hdepth : ¬ mostDepth < s.toJson.depth := Nat.not_lt.mpr s.depth_toJson_le
  have ha : readList (readAgentRecord medium) (.list (s.agents.map AgentRecord.toJson)) =
      .ok s.agents :=
    readList_map fun r hr => readAgentRecord_toJson medium (hagents r hr).1 (hagents r hr).2
  have ht : readList (readExchange medium) (.list (s.transcript.map Exchange.toJson)) =
      .ok s.transcript := readList_map fun e _ => readExchange_toJson medium e
  rw [readSnapshot, if_neg fun h => hdepth h.2]
  simp [Snapshot.toJson, readFields, readFieldD, Json.getField?, ha, ht, Reading.both, Except.map]

/-! ## From the text -/

theorem Json.isLegible_texts {ts : List Text} (h : ∀ t ∈ ts, t.isWhole = true) :
    (texts ts).IsLegible :=
  isLegible_listMap fun t ht => .text (h t ht)

theorem Inference.MadeOf.isLegible_toJson {i : Inference} (h : i.MadeOf .storable) :
    i.toJson.IsLegible := by
  refine .object (by simp) (by simp) ?_
  simp only [List.forall_mem_cons]
  exact ⟨Json.isLegible_texts h.premises, .text h.conclusion, by simp⟩

theorem Challenge.isLegible_toJson {c : Challenge} (h : c.sentence.isWhole = true) :
    c.toJson.IsLegible := by
  refine .list ?_
  simp only [List.forall_mem_cons]
  exact ⟨.text (Text.isWhole_ofString _), .text h, by simp⟩

theorem Agent.MadeOf.isLegible_toJson (h : a.MadeOf .storable) :
    (AgentRecord.ofAgent a).toJson.IsLegible := by
  refine .object (by simp) (by simp) ?_
  simp only [List.forall_mem_cons]
  refine ⟨.text (Text.isWhole_ofString _), .text h.name, .integer h.depth,
    Json.isLegible_texts h.avowed, ?_, ?_, ?_, ?_, by simp⟩
  · refine Json.isLegible_listMap fun ts hts => ?_
    obtain ⟨i, hi, rfl⟩ := List.mem_map.mp hts
    exact Json.isLegible_texts (h.rules.incompatibilities i hi)
  · exact Json.isLegible_listMap fun i hi => (h.rules.committive i hi).isLegible_toJson
  · exact Json.isLegible_listMap fun i hi => (h.rules.permissive i hi).isLegible_toJson
  · exact Json.isLegible_listMap fun c hc => Challenge.isLegible_toJson (h.challenges c hc).2

theorem Game.MadeOf.isLegible_toJson (h : g.MadeOf .storable) : g.snapshot.toJson.IsLegible := by
  refine .object (by simp) (by simp) ?_
  simp only [List.forall_mem_cons]
  refine ⟨?_, ?_, by simp⟩
  · refine Json.isLegible_listMap fun r hr => ?_
    obtain ⟨a, ha, rfl⟩ := List.mem_map.mp hr
    exact (h.agents a ha).isLegible_toJson
  · refine Json.isLegible_listMap fun e he => ?_
    refine .object (by simp) (by simp) ?_
    simp only [List.forall_mem_cons]
    exact ⟨.text (h.transcript e he).1, .text (h.transcript e he).2, by simp⟩

/-- A game of storable material is read back from its text. -/
theorem Game.reload_eq (h : g.MadeOf .storable) : g.reload = .ok (some g) := by
  have hlegible := h.isLegible_toJson
  have hread : readSnapshot .text g.snapshot.toJson = .ok g.snapshot := by
    refine readSnapshot_toJson .text fun r hr => ?_
    obtain ⟨a, ha, rfl⟩ := List.mem_map.mp hr
    exact ⟨(h.agents a ha).id, fun c hc => ((h.agents a ha).challenges c hc).1⟩
  have hparse : Snapshot.parse? g.snapshot.toJson.print = some g.snapshot := by
    rw [Snapshot.parse?, Json.parse?_print hlegible]
    exact congrArg Except.toOption hread
  rw [Game.reload, Snapshot.print, Json.loneHalves?_eq_none hlegible]
  simp only [hparse, Option.map_some, Game.ofSnapshot_snapshot]

end Discourse
