import Discourse.Proofs.Attribution.Challenges
import Discourse.Proofs.Command.Dispute
import Discourse.Proofs.Interpreter.Influence

/-!
# Taking back a challenge in its own words

A challenge is withdrawn by the same words that issued it, as long as the link to the sentence has
single spaces or is left out. With other blanks in the link the withdrawal is read as one of another
sentence, against somebody called "to", and the challenge stays on record.

* `Interpreter.agents_execute_challenge`, `Interpreter.agents_execute_withdraw`,
  `Interpreter.agents_execute_withdrawDangling`: everybody after the line.
* `Play.IsNewChallenge`: a line that brings in a challenge.
* `Interpreter.withdrawing_undoes_iff`: when the same words take it back.
-/

namespace Discourse

variable {p : Play} {speaker target line x : String} {s : Sentence} {a t : Agent}

/-! ## Withdrawing -/

theorem Agent.withdrawDangling_eq_self {present : List AgentId}
    (h : a.danglingCount present s = 0) : a.withdrawDangling present s = a := by
  have hnone : ∀ c ∈ a.challenges.toList, isDangling present s c = false := by
    rw [danglingCount, OrderedSet.size, OrderedSet.toList_filter, List.length_eq_zero_iff,
      List.filter_eq_nil_iff] at h
    exact fun c hc => Bool.eq_false_iff.mpr (h c hc)
  have hkept : (a.challenges.filter fun c => !isDangling present s c) = a.challenges :=
    OrderedSet.ext (List.filter_eq_self.mpr fun c hc => by rw [hnone c hc]; rfl)
  rw [withdrawDangling, hkept]

namespace Interpreter

variable {it : Interpreter}

/-- Where nobody is called by the name nobody changes. -/
theorem agents_modifyNamed_of_none {f : Agent → Agent} (h : p.game.agentNamed? speaker = none) :
    (p.game.modifyNamed speaker f).agents = p.game.agents := by
  refine Game.modifyFirst_eq_self fun a ha => ?_
  have hfound : p.game.agentNamed? speaker = some a := ha
  rw [h] at hfound
  cases hfound

/-- A challenge to somebody present is withdrawn. -/
theorem agents_execute_withdraw (hparse : Command.parse? line = some (.withdraw speaker target s))
    (ht : p.game.agentNamed? target = some t) :
    (it.execute p line).2.game.agents = (p.game.modifyNamed speaker (·.withdraw t s)).agents := by
  rw [agents_execute_of_parse? it p hparse]
  dsimp only [Command.run]
  unfold Command.runWithdraw
  cases ha : p.game.agentNamed? speaker with
  | none => exact (agents_modifyNamed_of_none ha).symm
  | some a =>
    simp only [ht]
    rw [Play.change_snd]
    rfl

/-- If nobody is called by the name, the challenges to the sentence go whose targets have left. -/
theorem agents_execute_withdrawDangling
    (hparse : Command.parse? line = some (.withdraw speaker target s))
    (ht : p.game.agentNamed? target = none) :
    (it.execute p line).2.game.agents =
      (p.game.modifyNamed speaker (·.withdrawDangling p.game.present s)).agents := by
  rw [agents_execute_of_parse? it p hparse]
  dsimp only [Command.run]
  unfold Command.runWithdraw
  cases ha : p.game.agentNamed? speaker with
  | none => exact (agents_modifyNamed_of_none ha).symm
  | some a =>
    simp only [ht]
    split
    next hnone =>
      refine (Game.modifyFirst_eq_self fun b hb => ?_).symm
      cases ha.symm.trans hb
      exact Agent.withdrawDangling_eq_self hnone
    next =>
      rw [Play.change_snd]
      rfl

/-! ## Challenging -/

end Interpreter

/-- The line is a challenge of the speaker's that is not yet on its record. -/
structure Play.IsNewChallenge (p : Play) (line speaker target : String) (s : Sentence)
    (a t : Agent) : Prop where
  reading : Command.parse? line = some (.challenge speaker target s)
  challenger : p.game.agentNamed? speaker = some a
  challenged : p.game.agentNamed? target = some t
  avowed : s ∈ t.avowed
  new : ⟨t.id, s⟩ ∉ a.challenges

namespace Interpreter

variable {it : Interpreter}

/-- A new challenge is recorded. -/
theorem agents_execute_challenge (h : p.IsNewChallenge line speaker target s a t) :
    (it.execute p line).2.game.agents =
      (p.game.modifyNamed speaker (·.disputing ⟨t.id, s⟩)).agents := by
  rw [agents_execute_of_parse? it p h.reading]
  dsimp only [Command.run]
  unfold Command.runChallenge
  simp only [h.challenger, h.challenged, a.challenge_eq_some h.avowed]
  rw [Play.change_const (.disputing ⟨t.id, s⟩) h.challenger, Play.change_snd]
  rfl

/-- Everybody is found as before, the speaker with the challenge on record. -/
theorem agentNamed?_execute_challenge (it : Interpreter)
    (h : p.IsNewChallenge line speaker target s a t) :
    (it.execute p line).2.game.agentNamed? speaker = some (a.disputing ⟨t.id, s⟩) ∧
      ∃ u, (it.execute p line).2.game.agentNamed? target = some u ∧ u.id = t.id := by
  have hname : ∀ b, (Agent.disputing ⟨t.id, s⟩ b).name = b.name := fun _ => rfl
  have hid : ∀ b, (Agent.disputing ⟨t.id, s⟩ b).id = b.id := fun _ => rfl
  have hfound : ∀ name : String, (it.execute p line).2.game.agentNamed? name =
      (p.game.agentNamed? name).map (Game.reaching speaker (Agent.disputing ⟨t.id, s⟩) name) :=
    fun name => (congrArg (List.find? _) (agents_execute_challenge h)).trans
      (Game.agentNamed?_modifyNamed p.game speaker hname name)
  refine ⟨?_, _, by rw [hfound, h.challenged]; rfl, Game.reaching_congr hid t⟩
  rw [hfound, h.challenger, Option.map_some, Game.reaching, if_pos rfl]

/-- A challenge that stays on record has not been undone. -/
theorem agents_ne_of_mem (h : p.IsNewChallenge line speaker target s a t) {q : Play}
    {f : Agent → Agent}
    (hq : q.game.agents = ((it.execute p line).2.game.modifyNamed speaker f).agents)
    (hf : ∀ b, (f b).name = b.name)
    (hkept : ⟨t.id, s⟩ ∈ (f (a.disputing ⟨t.id, s⟩)).challenges) :
    q.game.agents ≠ p.game.agents := by
  intro hsame
  have hlookup := Game.agentNamed?_modifyNamed (it.execute p line).2.game speaker hf speaker
  rw [(agentNamed?_execute_challenge it h).1, Option.map_some, Game.reaching, if_pos rfl] at hlookup
  have hfound : p.game.agentNamed? speaker = some (f (a.disputing ⟨t.id, s⟩)) :=
    (congrArg (List.find? _) (hsame.symm.trans hq)).trans hlookup
  have he : a = f (a.disputing ⟨t.id, s⟩) := Option.some.inj (h.challenger.symm.trans hfound)
  refine h.new ?_
  rw [he]
  exact hkept

/-- A challenge is withdrawn by its own words just when the link is left out or has single spaces.
-/
theorem withdrawing_undoes_iff (it : Interpreter) (p : Play)
    (h : p.IsNewChallenge (speaker ++ " challenges " ++ x) speaker target s a t) :
    (it.execute (it.execute p (speaker ++ " challenges " ++ x)).2
        (speaker ++ " withdraws her challenge to " ++ x)).2.game.agents = p.game.agents ↔
      ¬ Grammar.SpreadLink x := by
  have hline : speaker ++ " withdraws her challenge to " ++ x =
      speaker ++ " withdraws " ++ "her" ++ " challenge to " ++ x := by
    simp only [String.append_assoc]
    rfl
  have hher : "her" ∈ Grammar.pronouns := by decide
  rw [hline]
  constructor
  · intro hundone hspread
    obtain ⟨s', hne, hparse⟩ :=
      Command.exists_parse?_withdraws_of_spreadLink hher h.reading hspread
    have hmem : ⟨t.id, s⟩ ∈ (a.disputing ⟨t.id, s⟩).challenges :=
      OrderedSet.mem_insert.mpr (Or.inr BEq.rfl)
    cases hto : (it.execute p (speaker ++ " challenges " ++ x)).2.game.agentNamed? "to" with
    | some u =>
      refine agents_ne_of_mem h (agents_execute_withdraw hparse hto) (fun _ => rfl) ?_ hundone
      refine OrderedSet.mem_erase.mpr ⟨hmem, beq_false_of_ne fun he => hne ?_⟩
      exact (congrArg Challenge.sentence he).symm
    | none =>
      refine agents_ne_of_mem h (agents_execute_withdrawDangling hparse hto) (fun _ => rfl) ?_
        hundone
      refine (OrderedSet.mem_filter fun c d he => by rw [eq_of_beq he]).mpr ⟨hmem, ?_⟩
      have hother : (s == s') = false := beq_false_of_ne (Ne.symm hne)
      simp [Agent.isDangling, hother]
  · intro hlink
    obtain ⟨-, u, hu, hid⟩ := agentNamed?_execute_challenge it h
    have hparse := Command.parse?_withdraws_of_challenge hher h.reading hlink
    rw [agents_execute_withdraw hparse hu, Game.modifyNamed, agents_execute_challenge h]
    refine Game.modifyFirst_undo (fun _ => rfl) fun b hb => ?_
    have hb : a = b := Option.some.inj (h.challenger.symm.trans hb)
    rw [← hb, Agent.withdraw, hid]
    exact congrArg a.withChallenges (OrderedSet.erase_insert_of_not_mem h.new)

/-- Bob has asserted something in a new game. -/
def outspoken : Play := playAfter {} {} ["new game", "Bob asserts A is red"]

/-- Whichever line says so, a challenge of Ann's to what Bob has asserted is new. -/
theorem exists_isNewChallenge_outspoken
    (h : Command.parse? line = some (.challenge "Ann" "Bob" "A is red")) :
    ∃ a t, outspoken.IsNewChallenge line "Ann" "Bob" "A is red" a t := by
  have hann : (outspoken.game.agentNamed? "Ann").map (·.challenges.toList) = some [] := by
    decide +kernel
  have hbob : (outspoken.game.agentNamed? "Bob").map (·.avowed.contains "A is red") =
      some true := by decide +kernel
  obtain ⟨a, ha, hnone⟩ := Option.map_eq_some_iff.mp hann
  obtain ⟨t, ht, havowed⟩ := Option.map_eq_some_iff.mp hbob
  refine ⟨a, t, h, ha, ht, havowed, fun hmem => ?_⟩
  rw [OrderedSet.mem_iff_mem_toList, hnone] at hmem
  cases hmem

theorem withdrawing_undoes_iff_outspoken :
    let x := "Bob's entitlement to A is red"
    (∃ a t, outspoken.IsNewChallenge ("Ann" ++ " challenges " ++ x) "Ann" "Bob" "A is red" a t) ∧
      ((execute {} (execute {} outspoken ("Ann" ++ " challenges " ++ x)).2
        ("Ann" ++ " withdraws her challenge to " ++ x)).2.game.agents = outspoken.game.agents ↔
          ¬ Grammar.SpreadLink x) := by
  intro x
  have hnew : ∃ a t, outspoken.IsNewChallenge ("Ann" ++ " challenges " ++ x) "Ann" "Bob"
      "A is red" a t := exists_isNewChallenge_outspoken (by decide +kernel)
  obtain ⟨a, t, h⟩ := hnew
  exact ⟨⟨a, t, h⟩, withdrawing_undoes_iff {} outspoken h⟩

/-- A challenge can be issued in words that do not take it back: two blanks before "entitlement" are
enough. -/
theorem not_every_challenge_is_undone :
    ¬ ∀ (it : Interpreter) (lines : List String) (speaker target x : String) (s : Sentence)
      (a t : Agent), let p := it.playAfter {} lines
      p.IsNewChallenge (speaker ++ " challenges " ++ x) speaker target s a t →
        (it.execute (it.execute p (speaker ++ " challenges " ++ x)).2
          (speaker ++ " withdraws her challenge to " ++ x)).2.game.agents = p.game.agents := by
  intro hall
  let x := "Bob's  entitlement to A is red"
  have hnew : ∃ a t, outspoken.IsNewChallenge ("Ann" ++ " challenges " ++ x) "Ann" "Bob"
      "A is red" a t := exists_isNewChallenge_outspoken (by decide +kernel)
  obtain ⟨a, t, h⟩ := hnew
  have hundone := hall {} ["new game", "Bob asserts A is red"] "Ann" "Bob" x "A is red" a t h
  have hafter : (execute {} (execute {} outspoken ("Ann" ++ " challenges " ++ x)).2
      ("Ann" ++ " withdraws her challenge to " ++ x)).2.game.agents.map (·.challenges.size) =
        [1, 0] := by decide +kernel
  have hbefore : outspoken.game.agents.map (·.challenges.size) = [0, 0] := by decide +kernel
  have hsizes := congrArg (List.map (·.challenges.size)) hundone
  exact absurd (hafter.symm.trans (hsizes.trans hbefore)) (by decide)

end Interpreter

end Discourse
