import Discourse.Proofs.Attribution.Material
import Discourse.Proofs.Command.Effect
import Discourse.Proofs.Game.Material

/-!
# What commands leave and answer

A command brings names and sentences into a game, and its answer shows what is in the game. So
where the settings, the game and the command are of some material, the game after the command and
the answer are.

* `Command.MadeOf`, `Description.MadeOf`, `Reply.MadeOf`: what commands and answers are made of.
* `Command.drawn_le_run`: identifiers are only ever drawn.
* `Command.madeOf_run`: the game after a command, and its answer.
-/

namespace Discourse

variable {m : Material}

/-- The names, the sentences and the depth in a command are of the material. -/
def Command.MadeOf (m : Material) : Command → Prop
  | .quit | .help | .listAgents | .newGame | .scoreAll => True
  | .addAgent name | .removeAgent name | .describe name => m.text name
  | .score keeper other => m.text keeper ∧ m.text other
  | .setIntelligence name digits =>
    m.text name ∧ ∀ n, Text.readDigits digits.toList = .ok n → m.depth n
  | .assert speaker s | .disavow speaker s => m.text speaker ∧ m.text s
  | .challenge speaker target s | .withdraw speaker target s =>
    m.text speaker ∧ m.text target ∧ m.text s
  | .editInference speaker _ _ premises conclusion =>
    m.text speaker ∧ (∀ t ∈ premises, m.text t) ∧ m.text conclusion
  | .editIncompatibility speaker _ sentences => m.text speaker ∧ ∀ t ∈ sentences, m.text t

/-- The names and sentences of a description are of the material. -/
structure Description.MadeOf (m : Material) (d : Description) : Prop where
  name : m.text d.name
  avowed : ∀ t ∈ d.avowed, m.text t
  incompatibilities : ∀ ts ∈ d.incompatibilities, ∀ t ∈ ts, m.text t
  committive : ∀ i ∈ d.committive, i.MadeOf m
  permissive : ∀ i ∈ d.permissive, i.MadeOf m
  challenges : ∀ c ∈ d.challenges, (∀ n ∈ c.targetName, m.text n) ∧ m.text c.sentence

/-- The names and sentences of an answer are of the material. -/
def Reply.MadeOf (m : Material) : Reply → Prop
  | .goodbye | .help | .welcome | .notRecognized => True
  | .descriptions ds => ∀ d ∈ ds, d.MadeOf m
  | .added name | .nameTaken name | .removed name | .nobodyNamed name | .agentNotFound name =>
    m.text name
  | .score s => s.MadeOf m
  | .scores all => ∀ s ∈ all, s.MadeOf m
  | .notAsserted name s | .neverAsserted name s => m.text name ∧ m.text s
  | .portrait d self => d.MadeOf m ∧ self.MadeOf m

/-- The game and the answer after a command are of the material. -/
structure Leaves (m : Material) (r : Except CommandFailure Reply × Play) : Prop where
  game : r.2.game.MadeOf m
  reply : ∀ a, r.1 = .ok a → a.MadeOf m

theorem leaves_ok {a : Reply} {p : Play} (hp : p.game.MadeOf m) (ha : a.MadeOf m) :
    Leaves m (.ok a, p) := by
  refine ⟨hp, ?_⟩
  rintro b ⟨⟩
  exact ha

theorem leaves_error {e : CommandFailure} {p : Play} (hp : p.game.MadeOf m) :
    Leaves m (.error e, p) := by
  refine ⟨hp, ?_⟩
  rintro b ⟨⟩

/-! ## Descriptions -/

theorem Game.MadeOf.descriptionOf {g : Game} {a : Agent} (hg : g.MadeOf m) (ha : a.MadeOf m) :
    (g.descriptionOf a).MadeOf m where
  name := ha.name
  avowed := ha.avowed
  incompatibilities := by
    intro ts hts
    obtain ⟨i, hi, rfl⟩ := List.mem_map.mp hts
    exact ha.rules.incompatibilities i hi
  committive := ha.rules.committive
  permissive := ha.rules.permissive
  challenges := by
    intro v hv
    obtain ⟨c, hc, rfl⟩ := List.mem_map.mp hv
    refine ⟨?_, (ha.challenges c hc).2⟩
    intro n hn
    obtain ⟨b, hb, rfl⟩ := Option.map_eq_some_iff.mp hn
    exact (hg.agents b (List.mem_of_find?_eq_some hb)).name

/-! ## Identifiers -/

variable {p : Play}

namespace Command

/-- Whether the command lets somebody into the game. -/
def letsIn : Command → Bool
  | addAgent _ | newGame => true
  | _ => false

/-- A command that lets nobody in draws no identifier. -/
theorem ids_run (settings : Settings) (p : Play) {c : Command} (h : c.letsIn = false) :
    (c.run settings p).2.ids = p.ids := by
  cases howner : c.owner? with
  | some name =>
    obtain ⟨f, -, hq⟩ := leads_run settings p howner
    rw [hq]
    rfl
  | none =>
    cases c with
    | addAgent | newGame => cases h
    | removeAgent name =>
      simp only [run, runRemoveAgent]
      split <;> rfl
    | quit | help | listAgents | score | scoreAll | describe => rfl
    | _ => cases howner

theorem runAddAgent_play (settings : Settings) (p : Play) (name : String) :
    (runAddAgent settings p name).2 =
      ⟨(p.game.addAgent settings name {} p.ids).2.1,
        (p.game.addAgent settings name {} p.ids).2.2⟩ := by
  unfold runAddAgent
  split <;> rename_i h <;> rw [h]

theorem runNewGame_play (settings : Settings) (p : Play) :
    (runNewGame settings p).2 =
      ⟨(Game.newGame settings p.ids).2.1, (Game.newGame settings p.ids).2.2⟩ := by
  unfold runNewGame
  split <;> rename_i h <;> rw [h]

/-- Identifiers are only ever drawn. -/
theorem drawn_le_run (settings : Settings) (p : Play) (c : Command) :
    p.ids.drawn ≤ (c.run settings p).2.ids.drawn := by
  cases h : c.letsIn with
  | false => exact Nat.le_of_eq (congrArg IdSupply.drawn (ids_run settings p h).symm)
  | true =>
    cases c with
    | addAgent name =>
      rw [run, runAddAgent_play]
      exact Game.drawn_le_addAgent p.game settings name {} p.ids
    | newGame =>
      rw [run, runNewGame_play]
      exact Game.drawn_le_addAgents {} settings settings.seedAgents p.ids
    | _ => cases h

end Command

/-! ## Commands -/

theorem leaves_answerScores (hp : p.game.MadeOf m) : Leaves m p.answerScores :=
  leaves_ok hp (Score.madeOf_scoreAll hp.agents)

theorem leaves_change {name : String} {f : Agent → Agent} (hp : p.game.MadeOf m)
    (hname : m.text name) (hf : ∀ a : Agent, a.MadeOf m → (f a).MadeOf m) :
    Leaves m (p.change name f) := by
  unfold Play.change
  split
  · exact leaves_ok hp hname
  · exact leaves_answerScores (hp.modifyNamed fun a ha => hf a (hp.agentNamed? ha))

namespace Command

theorem leaves_runAddAgent {settings : Settings} {name : String} (hp : p.game.MadeOf m)
    (hs : settings.MadeOf m) (hname : m.text name)
    (hids : ∀ n ≤ (runAddAgent settings p name).2.ids.drawn, m.id ⟨n⟩) :
    Leaves m (runAddAgent settings p name) := by
  have hadd := hp.addAgent p.ids hs hname Seed.madeOf_empty
  unfold runAddAgent at hids ⊢
  split at hids
  next h =>
    rw [h] at hadd
    exact leaves_ok (hadd hids) hname
  next h =>
    rw [h] at hadd
    exact leaves_ok (hadd hids) hname
  next h =>
    rw [h] at hadd
    exact leaves_error (hadd hids)

theorem leaves_runRemoveAgent {name : String} (hp : p.game.MadeOf m) (hname : m.text name) :
    Leaves m (runRemoveAgent p name) := by
  unfold runRemoveAgent
  split
  next h => exact leaves_ok (hp.removeAgent h) hname
  next h => exact leaves_ok hp hname

theorem leaves_runNewGame {settings : Settings} (hs : settings.MadeOf m)
    (hids : ∀ n ≤ (runNewGame settings p).2.ids.drawn, m.id ⟨n⟩) :
    Leaves m (runNewGame settings p) := by
  have hnew := Game.madeOf_newGame p.ids hs
  unfold runNewGame at hids ⊢
  split at hids
  next h =>
    rw [h] at hnew
    exact leaves_ok (hnew hids) trivial
  next h =>
    rw [h] at hnew
    exact leaves_error (hnew hids)

theorem madeOf_scoreReply {g : Game} {keeper other : String} (hg : g.MadeOf m)
    (hk : m.text keeper) (ho : m.text other) : (scoreReply g keeper other).MadeOf m := by
  unfold scoreReply
  split
  · exact hk
  next k hk =>
    split
    · exact ho
    next o ho =>
      exact Score.madeOf_score hg.agents (hg.agentNamed? hk) (hg.agentNamed? ho)

theorem leaves_runSetIntelligence {name digits : String} (hp : p.game.MadeOf m)
    (hname : m.text name) (hdepth : ∀ n, Text.readDigits digits.toList = .ok n → m.depth n) :
    Leaves m (runSetIntelligence p name digits) := by
  unfold runSetIntelligence
  split
  · exact leaves_ok hp hname
  · split
    next h => exact leaves_error hp
    next n h => exact leaves_change hp hname fun a ha => { ha with depth := hdepth n h }

theorem leaves_runDisavow {speaker : String} {s : Sentence} (hp : p.game.MadeOf m)
    (hname : m.text speaker) (hs : m.text s) : Leaves m (runDisavow p speaker s) := by
  unfold runDisavow
  split
  · exact leaves_ok hp hname
  · split
    · exact leaves_change hp hname fun _ ha => ha.disavow
    · exact leaves_ok hp ⟨hname, hs⟩

theorem leaves_runChallenge {speaker target : String} {s : Sentence} (hp : p.game.MadeOf m)
    (hspeaker : m.text speaker) (htarget : m.text target) (hs : m.text s) :
    Leaves m (runChallenge p speaker target s) := by
  unfold runChallenge
  split
  · exact leaves_ok hp hspeaker
  next a ha =>
    split
    · exact leaves_ok hp htarget
    next t ht =>
      have htm := hp.agentNamed? ht
      split
      · exact leaves_ok hp ⟨htm.name, hs⟩
      next challenger hc =>
        exact leaves_change hp hspeaker fun _ _ => (hp.agentNamed? ha).challenge htm hs hc

theorem leaves_runWithdraw {speaker target : String} {s : Sentence} (hp : p.game.MadeOf m)
    (hspeaker : m.text speaker) (htarget : m.text target) :
    Leaves m (runWithdraw p speaker target s) := by
  unfold runWithdraw
  split
  · exact leaves_ok hp hspeaker
  · split
    · exact leaves_change hp hspeaker fun _ ha => ha.withdraw
    · split
      · exact leaves_ok hp htarget
      · exact leaves_change hp hspeaker fun _ ha => ha.withdrawDangling

theorem madeOf_descriptionsOf {g : Game} (hg : g.MadeOf m) :
    ∀ d ∈ descriptionsOf g, d.MadeOf m := by
  intro d hd
  obtain ⟨a, ha, rfl⟩ := List.mem_map.mp hd
  refine hg.descriptionOf ?_
  cases hb : g.agentNamed? a.name with
  | none => exact hg.agents a ha
  | some b => exact hg.agentNamed? hb

theorem madeOf_describeReply {g : Game} (hg : g.MadeOf m) (name : String) :
    (describeReply g name).MadeOf m := by
  unfold describeReply
  split
  · trivial
  next a ha =>
    have ham := hg.agentNamed? ha
    exact ⟨hg.descriptionOf ham, Score.madeOf_score hg.agents ham ham⟩

/-- The game after a command and its answer are of the material of the settings, the game and the
command, if the identifiers drawn so far are. -/
theorem madeOf_run {settings : Settings} {c : Command} (hp : p.game.MadeOf m)
    (hs : settings.MadeOf m) (hc : c.MadeOf m)
    (hids : ∀ n ≤ (c.run settings p).2.ids.drawn, m.id ⟨n⟩) : Leaves m (c.run settings p) := by
  cases c with
  | quit | help => exact leaves_ok hp trivial
  | listAgents => exact leaves_ok hp (madeOf_descriptionsOf hp)
  | addAgent name => exact leaves_runAddAgent hp hs hc hids
  | removeAgent name => exact leaves_runRemoveAgent hp hc
  | newGame => exact leaves_runNewGame hs hids
  | score keeper other => exact leaves_ok hp (madeOf_scoreReply hp hc.1 hc.2)
  | scoreAll => exact leaves_answerScores hp
  | setIntelligence name digits => exact leaves_runSetIntelligence hp hc.1 hc.2
  | assert speaker s => exact leaves_change hp hc.1 fun _ ha => ha.assert hc.2
  | disavow speaker s => exact leaves_runDisavow hp hc.1 hc.2
  | challenge speaker target s => exact leaves_runChallenge hp hc.1 hc.2.1 hc.2.2
  | withdraw speaker target s => exact leaves_runWithdraw hp hc.1 hc.2.1
  | editInference speaker edit kind premises conclusion =>
    exact leaves_change hp hc.1 fun _ ha =>
      ha.editInference (Inference.madeOf_ofPremises hc.2.1 hc.2.2)
  | editIncompatibility speaker edit sentences =>
    exact leaves_change hp hc.1 fun _ ha => ha.editIncompatibility (OrderedSet.all_ofList hc.2)
  | describe name => exact leaves_ok hp (madeOf_describeReply hp name)

end Command

end Discourse
