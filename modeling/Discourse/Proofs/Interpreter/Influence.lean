import Discourse.Proofs.Attribution.Influence
import Discourse.Proofs.Command.Effect
import Discourse.Proofs.Game.Names
import Discourse.Proofs.Game.Newcomers
import Discourse.Proofs.Interpreter.Line

/-!
# Whose scores a line can change

A rule bears on the scores that its owner keeps, and a depth on those that its owner keeps or that
are kept on it. What is avowed or challenged reaches everybody, but only as what people are entitled
to: what others are committed to stays.

* `Game.map_scoreByName_modifyNamed`: a score after a change to one agent.
* `Command.Spares`: what a command leaves of a score.
* `Interpreter.scores_spared`: a score under changes to rules and depths, and under a line.
-/

namespace Discourse

/-! ## Scores by name -/

namespace Game

variable {g : Game} {name : Text} {f : Agent → Agent}

/-- What a change to the agent of one name does to the agent of another. -/
def reaching (name : Text) (f : Agent → Agent) (other : Text) : Agent → Agent :=
  if Text.lower other = Text.lower name then f else fun a => a

theorem reaching_of_ne {other : Text} (h : Text.lower other ≠ Text.lower name) :
    reaching name f other = fun a => a :=
  if_neg h

/-- A change leaves of everybody what it leaves of the one that it is made to. -/
theorem reaching_congr {β : Type} {φ : Agent → β} {other : Text} (h : ∀ a, φ (f a) = φ a)
    (a : Agent) : φ (reaching name f other a) = φ a := by
  unfold reaching
  split
  · exact h a
  · rfl

theorem agentNamed?_modifyNamed (g : Game) (name : Text) (hf : ∀ a, (f a).name = a.name)
    (other : Text) :
    (g.modifyNamed name f).agentNamed? other =
      (g.agentNamed? other).map (reaching name f other) := by
  have hkept : ∀ a, hasName other (f a) = hasName other a := by
    intro a
    rw [hasName, hasName, hf]
  unfold reaching
  split
  next hsame =>
    have hpredicate : hasName name = hasName other := by
      funext a
      rw [hasName, hasName, hsame]
    rw [agentNamed?, modifyNamed, hpredicate]
    exact find?_modifyFirst hkept
  next hdiffer =>
    rw [Option.map_id']
    refine find?_modifyFirst_of_disjoint hkept fun a ha => ?_
    rw [hasName, beq_eq_false_iff_ne]
    intro hother
    exact hdiffer (hother.symm.trans (hasName_iff.mp ha))

/-- What holds of a score after a change to one agent, if it holds whoever the two are. -/
theorem map_scoreByName_modifyNamed {β : Type} (φ : Score → β) (hf : ∀ a, (f a).name = a.name)
    {keeper other : Text}
    (h : ∀ k o, φ (score (g.modifyNamed name f).agents (reaching name f keeper k)
      (reaching name f other o)) = φ (score g.agents k o)) :
    ((g.modifyNamed name f).scoreByName keeper other).map φ =
      (g.scoreByName keeper other).map φ := by
  unfold scoreByName getAgent
  rw [agentNamed?_modifyNamed g name hf, agentNamed?_modifyNamed g name hf]
  cases g.agentNamed? keeper with
  | none => rfl
  | some k =>
    cases g.agentNamed? other with
    | none => rfl
    | some o => exact congrArg Except.ok (h k o)

theorem scoreByName_modifyNamed (hf : ∀ a, (f a).name = a.name) {keeper other : Text}
    (h : ∀ k o, score (g.modifyNamed name f).agents (reaching name f keeper k)
      (reaching name f other o) = score g.agents k o) :
    (g.modifyNamed name f).scoreByName keeper other = g.scoreByName keeper other := by
  have hmap := map_scoreByName_modifyNamed id hf h
  simpa only [Except.map_id, id_eq] using hmap

variable {keeper other : Text}

/-- A change to rules and depths counts for a score only if it is made to the keeper, or to the
depth of the other. -/
theorem scoreByName_of_reconfigured (hf : ∀ a : Agent, a.Reconfigured (f a))
    (hkeeper : ∀ a, reaching name f keeper a = a)
    (hother : ∀ a, ∃ rules, reaching name f other a = { a with rules }) :
    (g.modifyNamed name f).scoreByName keeper other = g.scoreByName keeper other := by
  have hname : ∀ a, (f a).name = a.name := by
    intro a
    obtain ⟨_, _, ha⟩ := hf a
    rw [ha]
  have hagents : List.Forall₂ Agent.Reconfigured g.agents (g.modifyNamed name f).agents :=
    forall₂_modifyFirst Agent.Reconfigured.refl hf
  refine scoreByName_modifyNamed hname fun k o => ?_
  obtain ⟨rules, ho⟩ := hother o
  rw [hkeeper, ho]
  exact score_of_reconfigured hagents k o rules

/-- A change that keeps the keeper's rules and depth and what the other has avowed keeps what is
held. -/
theorem map_held_scoreByName (hname : ∀ a, (f a).name = a.name)
    (hrules : ∀ a, (reaching name f keeper a).rules = a.rules)
    (hdepth : ∀ a, (reaching name f keeper a).intelligence = a.intelligence)
    (havowed : ∀ a, (reaching name f other a).avowed = a.avowed) :
    ((g.modifyNamed name f).scoreByName keeper other).map Score.held =
      (g.scoreByName keeper other).map Score.held :=
  map_scoreByName_modifyNamed Score.held hname fun k o =>
    held_score_congr (hrules k) (hdepth k) (havowed o)

/-! ## Changes to one part -/

/-- The rules of one agent do not count for the scores that others keep. -/
theorem scoreByName_of_rules (hf : ∀ a, ∃ rules, f a = { a with rules })
    (hkeeper : Text.lower keeper ≠ Text.lower name) :
    (g.modifyNamed name f).scoreByName keeper other = g.scoreByName keeper other := by
  choose rules hf using hf
  obtain rfl := funext hf
  refine scoreByName_of_reconfigured (fun a => ⟨rules a, a.intelligence, rfl⟩) ?_ ?_
  · intro k
    rw [reaching_of_ne hkeeper]
  · intro o
    unfold reaching
    split
    · exact ⟨rules o, rfl⟩
    · exact ⟨o.rules, rfl⟩

/-- The depth of one agent does not count for what others hold it committed to, nor for the scores
of others on others. -/
theorem scoreByName_of_depth (hf : ∀ a, ∃ intelligence, f a = { a with intelligence })
    (hkeeper : Text.lower keeper ≠ Text.lower name) :
    ((g.modifyNamed name f).scoreByName keeper other).map Score.held =
        (g.scoreByName keeper other).map Score.held ∧
      (Text.lower other ≠ Text.lower name →
        (g.modifyNamed name f).scoreByName keeper other = g.scoreByName keeper other) := by
  choose intelligence hf using hf
  obtain rfl := funext hf
  have hkept := reaching_of_ne (f := fun a => { a with intelligence := intelligence a }) hkeeper
  constructor
  · refine map_held_scoreByName (fun _ => rfl) ?_ ?_ (reaching_congr fun _ => rfl)
    · rw [hkept]
      exact fun _ => rfl
    · rw [hkept]
      exact fun _ => rfl
  · intro hother
    refine scoreByName_of_reconfigured (fun a => ⟨a.rules, intelligence a, rfl⟩) ?_ ?_
    · rw [hkept]
      exact fun _ => rfl
    · rw [reaching_of_ne hother]
      exact fun o => ⟨o.rules, rfl⟩

theorem map_held_of_challenges (hf : ∀ a, ∃ challenges, f a = { a with challenges }) :
    ((g.modifyNamed name f).scoreByName keeper other).map Score.held =
      (g.scoreByName keeper other).map Score.held := by
  choose challenges hf using hf
  obtain rfl := funext hf
  exact map_held_scoreByName (fun _ => rfl) (reaching_congr fun _ => rfl)
    (reaching_congr fun _ => rfl) (reaching_congr fun _ => rfl)

theorem map_held_of_avowed (hf : ∀ a, ∃ avowed, f a = { a with avowed })
    (hother : Text.lower other ≠ Text.lower name) :
    ((g.modifyNamed name f).scoreByName keeper other).map Score.held =
      (g.scoreByName keeper other).map Score.held := by
  choose avowed hf using hf
  obtain rfl := funext hf
  refine map_held_scoreByName (fun _ => rfl) (reaching_congr fun _ => rfl)
    (reaching_congr fun _ => rfl) ?_
  rw [reaching_of_ne hother]
  exact fun _ => rfl

end Game

/-! ## Commands -/

namespace Command

/-- What a command leaves of the score that the one of a name keeps on the other. Newcomers, those
who leave and a new game may change any score. -/
def Spares (c : Command) (keeper other : Text) (before after : Except GameError Score) : Prop :=
  match c with
  | editInference speaker _ _ _ _ | editIncompatibility speaker _ _ =>
    Text.lower keeper ≠ Text.lower speaker → after = before
  | setIntelligence name _ =>
    Text.lower keeper ≠ Text.lower name →
      after.map Score.held = before.map Score.held ∧
        (Text.lower other ≠ Text.lower name → after = before)
  | challenge _ _ _ | withdraw _ _ _ => after.map Score.held = before.map Score.held
  | assert speaker _ | disavow speaker _ =>
    Text.lower other ≠ Text.lower speaker → after.map Score.held = before.map Score.held
  | quit | help | listAgents | score _ _ | scoreAll | describe _ => after = before
  | addAgent _ | removeAgent _ | newGame => True

theorem spares_of_leads {c : Command} {name : String} {p q : Play} (h : c.owner? = some name)
    (hq : c.Leads name p q) (keeper other : Text) :
    c.Spares keeper other (p.game.scoreByName keeper other)
      (q.game.scoreByName keeper other) := by
  obtain ⟨f, hf, rfl⟩ := hq
  cases c with
  | setIntelligence =>
    cases h
    exact Game.scoreByName_of_depth hf
  | assert | disavow =>
    cases h
    exact Game.map_held_of_avowed hf
  | challenge | withdraw =>
    cases h
    exact Game.map_held_of_challenges hf
  | editInference _ _ kind =>
    cases h
    refine Game.scoreByName_of_rules fun a => ?_
    obtain ⟨change, ha⟩ := hf a
    exact ⟨a.rules.changeInferences kind change, ha⟩
  | editIncompatibility =>
    cases h
    refine Game.scoreByName_of_rules fun a => ?_
    obtain ⟨change, ha⟩ := hf a
    exact ⟨a.rules.changeIncompatibilities change, ha⟩
  | _ => cases h

theorem spares_run (settings : Settings) (p : Play) (c : Command) (keeper other : Text) :
    c.Spares keeper other (p.game.scoreByName keeper other)
      ((c.run settings p).2.game.scoreByName keeper other) := by
  cases howner : c.owner? with
  | some name => exact spares_of_leads howner (leads_run settings p howner) keeper other
  | none =>
    -- The others let somebody in or out, or leave the play as it is.
    cases c with
    | addAgent | removeAgent | newGame => trivial
    | quit | help | listAgents | score | scoreAll | describe => rfl
    | _ => cases howner

end Command

/-! ## Lines -/

namespace Interpreter

theorem scoreByName_execute {it : Interpreter} {p : Play} {line : String} {c : Command}
    (h : Command.parse? line = some c) (keeper other : Text) :
    (it.execute p line).2.game.scoreByName keeper other =
      (c.run it.settings p).2.game.scoreByName keeper other := by
  have hreply : it.reply p line = c.run it.settings p := by rw [reply, h]
  have hagents := agents_execute it p line
  rw [hreply] at hagents
  simp only [Game.scoreByName, Game.getAgent, Game.agentNamed?, hagents]

/-- Who has a say in a score: of all rules only the keeper's count, and of all depths only those of
the two; and a line changes no score that its command spares. -/
theorem scores_spared :
    (∀ {as bs : List Agent}, List.Forall₂ Agent.Reconfigured as bs →
      ∀ (keeper other : Agent) (rules : RuleBook),
        score bs keeper { other with rules } = score as keeper other) ∧
    ∀ (it : Interpreter) (p : Play) {line : String} {c : Command},
      Command.parse? line = some c → ∀ keeper other,
        c.Spares keeper other (p.game.scoreByName keeper other)
          ((it.execute p line).2.game.scoreByName keeper other) := by
  refine ⟨score_of_reconfigured, ?_⟩
  intro it p line c hc keeper other
  rw [scoreByName_execute hc]
  exact Command.spares_run it.settings p c keeper other

/-- Ann, who has avowed nothing. -/
def ann : Agent := .newcomer {} "Ann" ⟨1⟩

/-- Bob, who has avowed that A is red. -/
def bob : Agent := (Agent.newcomer {} "Bob" ⟨2⟩).assert "A is red"

/-- Bob without rules. -/
def unruly : Agent := { bob with rules := default }

/-- The rules that Bob gives up, and a rule that he adds, count for his own score on himself, and
not for the one that Ann keeps on him. -/
theorem scores_spared_bob :
    let g : Game := ⟨[ann, bob], []⟩
    let line := "Bob adds committive inference: A is red |- A is dangerous"
    let g' := (execute {} ⟨g, {}⟩ line).2.game
    (g.NamesDiffer ∧ g.present.Nodup) ∧
      (score [ann, unruly] ann unruly = score [ann, bob] ann bob ∧
        score [ann, unruly] unruly unruly ≠ score [ann, bob] bob bob) ∧
      g'.scoreByName "Ann" "Bob" = g.scoreByName "Ann" "Bob" ∧
        g'.scoreByName "Bob" "Bob" ≠ g.scoreByName "Bob" "Bob" := by
  intro g line g'
  obtain ⟨hchange, hline⟩ := scores_spared
  have hagents : List.Forall₂ Agent.Reconfigured [ann, bob] [ann, unruly] :=
    .cons (.refl ann) (.cons ⟨default, bob.intelligence, rfl⟩ .nil)
  have hparse : Command.parse? line =
      some (.editInference "Bob" .add .committive ["A is red"] "A is dangerous") := by
    decide +kernel
  refine ⟨⟨by decide +kernel, by decide +kernel⟩, ⟨hchange hagents ann bob default, ?_⟩, ?_, ?_⟩
  · decide +kernel
  · exact hline {} ⟨g, {}⟩ hparse "Ann" "Bob" (by decide +kernel)
  · decide +kernel

end Interpreter

end Discourse
