import Discourse.Proofs.Interpreter.Addressable
import Discourse.Proofs.Interpreter.Disputes

/-!
# Taking back any challenge

A challenge has been issued in words, so there are words that take it back: of whoever has issued
it, to whoever it is directed at, and about the sentence, which can be said again. If the target has
left, any name that nobody has will do, and then all challenges to the sentence go whose targets
have left.

* `Command.parse?_withdrawal`: the line that takes a challenge back.
* `Agent.IsLeftWith`: what such a line makes of those present.
* `Interpreter.TakesBack`: a challenge can be taken back.
* `Interpreter.takes_back`: so it is for every challenge on record.
-/

namespace Discourse

open Spelling (IsName wording withdrawal)

variable {speaker target said : String}

/-! ## The line -/

namespace Spelling

/-- A sentence that can be written begins with a character that is no blank. -/
theorem exists_cons_wording (htrim : Text.trim said = said) :
    ∃ c cs, (wording said).toList = c :: cs ∧ Text.isBlank c = false := by
  unfold wording
  split
  next => exact ⟨'"', ['"'], rfl, by decide⟩
  next hne =>
    obtain ⟨c, cs, hcs⟩ := List.exists_cons_of_ne_nil (toList_ne_nil hne)
    exact ⟨c, cs, hcs, (isTrimmed_of_trim_eq htrim).1 c (by rw [hcs]; rfl)⟩

theorem noPeriod_wording (h : '.' ∉ said.toList) : '.' ∉ (wording said).toList := by
  unfold wording
  split
  next => decide
  next => exact h

/-- What is read is the sentence that is written. -/
theorem sentenceOf_wording (htrim : Text.trim said = said) (hquote : '"' ∉ said.toList) :
    sentenceOf (wording said) = said := by
  unfold wording
  split
  next hempty =>
    rw [hempty]
    decide +kernel
  next => rw [sentenceOf, removeQuotes, filter_ne_quote hquote, String.ofList_toList, htrim]

end Spelling

namespace Grammar

open Pattern (sequence)

/-- The sentence at the end of the line. -/
theorem fits?_wording (htrim : Text.trim said = said) (hperiod : '.' ∉ said.toList) :
    (sequence saying).fits? ([' '] ++ (wording said).toList) = some [wording said] := by
  obtain ⟨c, cs, hcs, hc⟩ := Spelling.exists_cons_wording htrim
  have hne : (wording said).toList ≠ [] := by simp [hcs]
  have hstops : Pattern.Stops .blank (wording said).toList := by
    rw [hcs]
    exact Pattern.stops_cons hc
  have hend : (sequence [sentence, sentenceEnd]).fits?
      ((wording said).toList ++ (Spelling.optional '.' false ++ [])) =
        some [String.ofList ((wording said).toList ++ if false then [] else [])] :=
    fits?_sentence hne (Spelling.noPeriod_wording hperiod) Text.allBlank_nil
  simp only [Spelling.optional, Bool.false_eq_true, if_false, List.append_nil,
    String.ofList_toList] at hend
  exact fits?_space (by decide) hstops hend

end Grammar

/-- The line asks for the withdrawal that it spells. -/
theorem Command.parse?_withdrawal (hspeaker : IsName speaker) (htarget : IsName target)
    (htrim : Text.trim said = said) (hperiod : '.' ∉ said.toList) (hquote : '"' ∉ said.toList) :
    parse? (withdrawal speaker target said) = some (.withdraw speaker target said) := by
  let x := target ++ "'s entitlement to " ++ wording said
  have hline : withdrawal speaker target said =
      speaker ++ " withdraws " ++ "his" ++ " challenge to " ++ x := by
    simp only [withdrawal, x, String.append_assoc]
    rfl
  have hlink : "'s entitlement to ".toList = Grammar.entitlementTo [' '] [' '] ++ [' '] := by decide
  have hx : x.toList = [] ++ (target.toList ++
      (Grammar.entitlementTo [' '] [' '] ++ ([' '] ++ (wording said).toList))) := by
    simp only [x, String.toList_append, hlink, List.append_assoc, List.nil_append]
  have hfits := Grammar.fits?_target Text.allBlank_nil htarget (Or.inr rfl)
    (Grammar.fits?_wording htrim hperiod)
  rw [← hx] at hfits
  have hhis : "his" ∈ Grammar.pronouns := by decide
  have hparse := parse?_withdraws hspeaker hhis (Grammar.match?_withdrawForm hspeaker hhis hfits)
  rw [hline, hparse, Spelling.sentenceOf_wording htrim hquote]

/-! ## Those present -/

/-- Of those present only the agent has changed, and of the agent only the challenges on record:
these ones are left, in this order. -/
def Agent.IsLeftWith (a : Agent) (kept : List Challenge) (before after : List Agent) : Prop :=
  ∃ earlier later challenges, challenges.toList = kept ∧ before = earlier ++ a :: later ∧
    after = earlier ++ a.withChallenges challenges :: later

namespace Interpreter

variable {it : Interpreter} {p : Play} {a : Agent} {c : Challenge}

/-- A challenge of the agent's can be taken back in words. If the target is present, it is taken
back under the target's name, and nothing else changes. If the target has left, any name that nobody
has takes back the agent's challenges to the sentence whose targets have left. -/
structure TakesBack (it : Interpreter) (p : Play) (a : Agent) (c : Challenge)
    (speaker said : String) : Prop where
  present : ∀ t ∈ p.game.agents, t.id = c.target → ∃ target : String, t.name = target ∧
    a.IsLeftWith (a.challenges.toList.filter (· ≠ c)) p.game.agents
      (it.execute p (withdrawal speaker target said)).2.game.agents
  departed : c.target ∉ p.game.present → ∀ target : String, IsName target →
    p.game.agentNamed? target = none →
    a.IsLeftWith (a.challenges.toList.filter fun d =>
        ¬ (d.sentence = c.sentence ∧ d.target ∉ p.game.present)) p.game.agents
      (it.execute p (withdrawal speaker target said)).2.game.agents

/-- The challenge to somebody present, and no other. -/
theorem isLeftWith_withdraw {line : String} {t : Agent} (hdiffer : p.game.NamesDiffer)
    (ha : a ∈ p.game.agents) (hname : a.name = speaker) (ht : t ∈ p.game.agents)
    (htarget : t.name = target)
    (hparse : Command.parse? line = some (.withdraw speaker target said)) :
    a.IsLeftWith (a.challenges.toList.filter (· ≠ ⟨t.id, said⟩)) p.game.agents
      (it.execute p line).2.game.agents := by
  obtain ⟨earlier, later, hbefore, hafter⟩ :=
    Game.exists_modifyNamed_eq (hdiffer.agentNamed?_self ha) (·.withdraw t said)
  have hfound : p.game.agentNamed? target = some t := htarget ▸ hdiffer.agentNamed?_self ht
  rw [agents_execute_withdraw hparse hfound, ← hname]
  refine ⟨earlier, later, a.challenges.erase ⟨t.id, said⟩, ?_, hbefore, hafter⟩
  rw [OrderedSet.toList_erase]
  exact List.filter_congr fun d _ => by simp [Bool.beq_eq_decide_eq]

/-- The challenges to the sentence whose targets have left, and no others. -/
theorem isLeftWith_withdrawDangling {line : String} (hdiffer : p.game.NamesDiffer)
    (ha : a ∈ p.game.agents) (hname : a.name = speaker)
    (hnobody : p.game.agentNamed? target = none)
    (hparse : Command.parse? line = some (.withdraw speaker target said)) :
    a.IsLeftWith (a.challenges.toList.filter fun d =>
        ¬ (d.sentence = said ∧ d.target ∉ p.game.present)) p.game.agents
      (it.execute p line).2.game.agents := by
  obtain ⟨earlier, later, hbefore, hafter⟩ :=
    Game.exists_modifyNamed_eq (hdiffer.agentNamed?_self ha)
      (·.withdrawDangling p.game.present said)
  rw [agents_execute_withdrawDangling hparse hnobody, ← hname]
  refine ⟨earlier, later, _, ?_, hbefore, hafter⟩
  rw [OrderedSet.toList_filter]
  exact List.filter_congr fun d _ => by simp [Agent.isDangling, Bool.beq_eq_decide_eq]

theorem takesBack_of_addressable (hp : p.game.Addressable) (ha : a ∈ p.game.agents)
    (hc : c ∈ a.challenges.toList) : ∃ speaker said : String,
      a.name = speaker ∧ c.sentence = said ∧ it.TakesBack p a c speaker said := by
  obtain ⟨speaker, hname, hspeaker⟩ := hp.named a ha
  obtain ⟨said, hsaid, htrim, hperiod, hquote⟩ := (hp.worded a ha).challenges c hc
  refine ⟨speaker, said, hname, hsaid, fun t ht hid => ?_, fun _ target htarget hnobody => ?_⟩
  · obtain ⟨target, htname, htarget⟩ := hp.named t ht
    have hparse := Command.parse?_withdrawal hspeaker htarget htrim hperiod hquote
    have hc' : c = ⟨t.id, said⟩ := by rw [hid, ← hsaid]
    refine ⟨target, htname, ?_⟩
    rw [hc']
    exact isLeftWith_withdraw hp.differ ha hname ht htname hparse
  · have hparse := Command.parse?_withdrawal hspeaker htarget htrim hperiod hquote
    rw [hsaid]
    exact isLeftWith_withdrawDangling hp.differ ha hname hnobody hparse

/-- Whatever has been said in a game, every challenge on record can be taken back. -/
theorem takes_back (it : Interpreter) (ids : IdSupply) (lines : List String)
    (hseeds : ∀ name ∈ it.settings.seedAgents, name.IsName) :
    let p := it.playAfter ⟨{}, ids⟩ lines
    ∀ a ∈ p.game.agents, ∀ c ∈ a.challenges.toList, ∃ speaker said : String,
      a.name = speaker ∧ c.sentence = said ∧ it.TakesBack p a c speaker said := by
  intro p a ha c hc
  have hstart : (Play.mk {} ids).game.Addressable := Game.addressable_empty
  exact takesBack_of_addressable (addressable_playAfter hstart hseeds lines) ha hc

/-- Ann has challenged what Bob has asserted in no words at all, and a sentence of Zed's, who has
left since. -/
def disputatious : List String :=
  ["new game", "add agent Zed", "Bob asserts \"\"", "Zed asserts A is red",
    "Ann challenges Bob's entitlement to \"\"", "Ann challenges Zed's entitlement to A is red",
    "remove agent Zed"]

theorem takes_back_disputatious :
    let p := playAfter {} ⟨{}, {}⟩ disputatious
    (∀ name ∈ ({} : Settings).seedAgents, name.IsName) ∧
      p.game.agents.map (fun a => (a.id, a.challenges.toList)) =
        [(⟨1⟩, [⟨⟨2⟩, ""⟩, ⟨⟨3⟩, "A is red"⟩]), (⟨2⟩, [])] ∧
      ∀ a ∈ p.game.agents, ∀ c ∈ a.challenges.toList, ∃ speaker said : String,
        a.name = speaker ∧ c.sentence = said ∧ TakesBack {} p a c speaker said := by
  intro p
  have hseeds : ∀ name ∈ ({} : Settings).seedAgents, name.IsName := by
    simp only [List.forall_mem_cons]
    exact ⟨⟨"Ann", rfl, by decide⟩, ⟨"Bob", rfl, by decide⟩, by simp⟩
  exact ⟨hseeds, by decide +kernel, takes_back {} {} disputatious hseeds⟩

end Interpreter

end Discourse
