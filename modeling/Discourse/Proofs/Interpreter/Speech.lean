import Discourse.Proofs.Command.Effect
import Discourse.Proofs.Command.Speech
import Discourse.Proofs.Interpreter.Line

/-!
# Asserting and disavowing in words

Whoever is called by a word can assert and disavow a sentence in many spellings, and each is about
just that sentence. So what is asserted in one spelling is taken back in any other.

* `Interpreter.agents_execute_assert`, `Interpreter.agents_execute_disavow`: everybody after the
  line.
* `Interpreter.HeardAsWritten`: what the lines come to that are about a sentence.
* `Interpreter.heard_as_written`: every spelling is about the sentence that it says.
-/

namespace Discourse.Interpreter

open Spelling (IsName Sayable Speech)

variable {it : Interpreter} {p : Play} {speaker sentence line : String} {a : Agent}

theorem agents_execute_assert {s : Sentence}
    (hparse : Command.parse? line = some (.assert speaker s)) :
    (it.execute p line).2.game.agents = (p.game.modifyNamed speaker (·.assert s)).agents := by
  rw [agents_execute_of_parse? it p hparse]
  dsimp only [Command.run]
  rw [Play.change_snd]
  rfl

/-- Taking back what has not been avowed changes nobody. -/
theorem agents_execute_disavow {s : Sentence}
    (hparse : Command.parse? line = some (.disavow speaker s)) :
    (it.execute p line).2.game.agents = (p.game.modifyNamed speaker (·.disavow s)).agents := by
  rw [agents_execute_of_parse? it p hparse]
  dsimp only [Command.run]
  have hsame : (∀ a, p.game.agentNamed? speaker = some a → a.disavow s = a) →
      p.game.agents = (p.game.modifyNamed speaker (·.disavow s)).agents := fun h =>
    (Game.modifyFirst_eq_self h).symm
  unfold Command.runDisavow
  split
  next hnone => exact hsame fun a ha => by simp [hnone] at ha
  next a ha =>
    split
    · rw [Play.change_snd]
      rfl
    next hnot =>
      refine hsame fun b hb => ?_
      cases ha.symm.trans hb
      rw [Agent.disavow, OrderedSet.erase_of_not_mem hnot]

/-- However it is written, a line in which the agent of the name asserts or disavows the sentence is
heard as just that. -/
structure HeardAsWritten (it : Interpreter) (p : Play) (speaker sentence : String) (a : Agent) :
    Prop where
  assertion : ∀ w : Speech,
    Command.parse? (w.line speaker "asserts" sentence) = some (.assert speaker sentence) ∧
      (it.execute p (w.line speaker "asserts" sentence)).2.game.agents =
        (p.game.modifyNamed speaker (·.assert sentence)).agents
  disavowal : ∀ w : Speech,
    Command.parse? (w.line speaker "disavows" sentence) = some (.disavow speaker sentence) ∧
      (it.execute p (w.line speaker "disavows" sentence)).2.game.agents =
        (p.game.modifyNamed speaker (·.disavow sentence)).agents
  takenBack : (sentence : Sentence) ∉ a.avowed → ∀ v w : Speech,
    (it.execute (it.execute p (v.line speaker "asserts" sentence)).2
      (w.line speaker "disavows" sentence)).2.game.agents = p.game.agents

/-- What somebody present says for or against a sentence is heard as it is written. -/
theorem heard_as_written (it : Interpreter) (p : Play) (ha : p.game.agentNamed? speaker = some a)
    (hname : IsName speaker) (hscore : speaker ≠ "scoreof") (hsentence : Sayable sentence) :
    it.HeardAsWritten p speaker sentence a := by
  have hassert := fun w => Command.parse?_asserts w hname hscore hsentence
  have hdisavow := fun w => Command.parse?_disavows w hname hscore hsentence
  refine ⟨fun w => ⟨hassert w, agents_execute_assert (hassert w)⟩,
    fun w => ⟨hdisavow w, agents_execute_disavow (hdisavow w)⟩, fun hnew v w => ?_⟩
  rw [agents_execute_disavow (hdisavow w), Game.modifyNamed, agents_execute_assert (hassert v)]
  refine Game.modifyFirst_undo (fun _ => rfl) fun b hb => ?_
  cases ha.symm.trans hb
  rw [Agent.disavow, Agent.assert, OrderedSet.erase_insert_of_not_mem hnew]

/-- Bob asserts a sentence with a command word in it, in double quotes and with a period. -/
example :
    Speech.line { colon := true, quoted := true, period := true } "Bob" "asserts" "A disavows B" =
      "Bob asserts: \"A disavows B\"." := by decide

theorem heard_as_written_bob :
    let p := playAfter {} {} ["new game"]
    ∃ a, p.game.agentNamed? "Bob" = some a ∧ IsName "Bob" ∧ "Bob" ≠ "scoreof" ∧
      Sayable "A disavows B" ∧ HeardAsWritten {} p "Bob" "A disavows B" a := by
  intro p
  have hsome : (p.game.agentNamed? "Bob").isSome = true := by decide +kernel
  obtain ⟨a, ha⟩ := Option.isSome_iff_exists.mp hsome
  have hsentence : Sayable "A disavows B" := by decide +kernel
  exact ⟨a, ha, by decide, by decide, hsentence,
    heard_as_written {} p ha (by decide) (by decide) hsentence⟩

end Discourse.Interpreter
