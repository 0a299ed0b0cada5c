import Discourse.Proofs.Command.Plain
import Discourse.Proofs.Interpreter.Touch

/-!
# Names and sentences that a line can repeat

No line lets anybody in under a name that is no word, or that is taken, and no line brings in a
sentence that another line could not say. So whatever is said in a game can be said again.

* `Command.names_run`, `Command.namesDiffer_run`, `Command.forall_name_run`: names after a command.
* `Game.Addressable`: everybody can be called by a name of its own, and every sentence can be said.
* `Interpreter.addressable_execute`, `Interpreter.addressable_playAfter`: a game stays so.
-/

namespace Discourse

/-- The text can be written as a name. -/
def Text.IsName (t : Text) : Prop := ∃ s : String, t = s ∧ Spelling.IsName s

variable {settings : Settings} {p : Play} {c : Command}

/-! ## Names after a command -/

namespace Command

/-- A command that is about one agent leaves all names as they are. -/
theorem names_run {name : String} (howner : c.owner? = some name) :
    (c.run settings p).2.game.agents.map Agent.name = p.game.agents.map Agent.name := by
  obtain ⟨f, hf, hq⟩ := leads_run settings p howner
  rw [hq]
  exact Game.map_modifyFirst_of_eq fun a => (hf a).id_and_name.2

theorem agents_runRemoveAgent_sublist (p : Play) (name : String) :
    (runRemoveAgent p name).2.game.agents.Sublist p.game.agents := by
  unfold runRemoveAgent Game.removeAgent
  cases p.game.agentNamed? name with
  | none => exact List.Sublist.refl _
  | some a => exact List.eraseP_sublist

/-- After a command names are as distinct as before. -/
theorem namesDiffer_run (hp : p.game.NamesDiffer) : (c.run settings p).2.game.NamesDiffer := by
  cases howner : c.owner? with
  | some name => exact hp.of_names (names_run howner)
  | none =>
    cases c with
    | addAgent name =>
      rw [run, runAddAgent_play]
      exact hp.addAgent settings name {} p.ids
    | newGame =>
      rw [run, runNewGame_play]
      exact Game.namesDiffer_newGame settings p.ids
    | removeAgent name =>
      exact List.Nodup.sublist ((agents_runRemoveAgent_sublist p name).map _) hp
    | quit | help | listAgents | score | scoreAll | describe => exact hp
    | _ => cases howner

/-- After a command everybody has a name from before, or a newcomer's, or a configured one. -/
theorem forall_name_run {property : Text → Prop} (hp : ∀ a ∈ p.game.agents, property a.name)
    (hseeds : ∀ name ∈ settings.seedAgents, property name)
    (hnew : ∀ name ∈ c.newcomer?, property name) :
    ∀ a ∈ (c.run settings p).2.game.agents, property a.name := by
  cases howner : c.owner? with
  | some name =>
    intro a ha
    have hmem : a.name ∈ p.game.agents.map Agent.name :=
      names_run howner ▸ List.mem_map_of_mem ha
    obtain ⟨b, hb, he⟩ := List.mem_map.mp hmem
    exact he ▸ hp b hb
  | none =>
    cases c with
    | addAgent name =>
      rw [run, runAddAgent_play]
      exact Game.forall_mem_addAgent hp fun _ => hnew name rfl
    | newGame =>
      rw [run, runNewGame_play]
      exact Game.forall_mem_newGame fun name hname _ => hseeds name hname
    | removeAgent name =>
      exact fun a ha => hp a ((agents_runRemoveAgent_sublist p name).subset ha)
    | quit | help | listAgents | score | scoreAll | describe => exact hp
    | _ => cases howner

end Command

/-! ## Lines -/

/-- Everybody can be called by a name of its own, and whatever is avowed or challenged can be said.
-/
structure Game.Addressable (g : Game) : Prop where
  differ : g.NamesDiffer
  named : ∀ a ∈ g.agents, a.name.IsName
  worded : g.Worded Sentence.IsPlain fun _ => True

theorem Game.addressable_empty : Addressable {} :=
  ⟨namesDiffer_empty, by rintro _ ⟨⟩, by rintro _ ⟨⟩⟩

theorem Command.addressable_run (hp : p.game.Addressable)
    (hseeds : ∀ name ∈ settings.seedAgents, name.IsName) (hc : c.IsPlain) :
    (c.run settings p).2.game.Addressable where
  differ := namesDiffer_run hp.differ
  named := forall_name_run hp.named hseeds fun name hname => ⟨name, rfl, hc.2 name hname⟩
  worded := worded_run hp.worded (fun _ _ => trivial) hc.1 fun _ _ => trivial

namespace Interpreter

variable {it : Interpreter}

theorem addressable_execute (hp : p.game.Addressable)
    (hseeds : ∀ name ∈ it.settings.seedAgents, name.IsName) (line : String) :
    (it.execute p line).2.game.Addressable := by
  have hreply : (it.reply p line).2.game.Addressable := by
    unfold reply
    cases hc : Command.parse? line with
    | none => exact hp
    | some c => exact Command.addressable_run hp hseeds (Command.isPlain_of_parse? hc)
  have hagents := agents_execute it p line
  refine ⟨?_, ?_, ?_⟩
  · exact hreply.differ.of_names (congrArg (List.map Agent.name) hagents)
  · exact hagents ▸ hreply.named
  · exact fun a ha => hreply.worded a (hagents ▸ ha)

theorem addressable_playAfter (hp : p.game.Addressable)
    (hseeds : ∀ name ∈ it.settings.seedAgents, name.IsName) (lines : List String) :
    (it.playAfter p lines).game.Addressable := by
  induction lines generalizing p with
  | nil => exact hp
  | cons line lines ih => exact ih (addressable_execute hp hseeds line)

end Interpreter

end Discourse
