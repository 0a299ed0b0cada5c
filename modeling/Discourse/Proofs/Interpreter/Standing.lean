import Discourse.Proofs.Command.Effect
import Discourse.Proofs.Command.Grammar
import Discourse.Proofs.Game.Newcomers
import Discourse.Proofs.Game.Standing
import Discourse.Proofs.Interpreter.Line

/-!
# Challenges to the departed

When somebody has left, the challenges to it never count again: not when its name is taken anew, for
a newcomer has an identifier of its own, and not when they are withdrawn. So whatever lines follow,
a game from whose record such challenges are taken comes to the same scores.

* `Play.essence`: what the scores of a play depend on, now and later.
* `Command.essence_run`: a command does the same to a play and to its essence.
* `Interpreter.scoreAll_withoutDangling`: the scores after any further lines.
-/

namespace Discourse

/-! ## Identifiers drawn so far -/

/-- Identifiers up to the given number, whatever the texts. -/
def Material.drawn (n : Nat) : Material where
  text _ := True
  id id := id.number ≤ n

theorem Material.drawn_within {m n : Nat} (h : m ≤ n) : (drawn m).Within (drawn n) where
  text _ ht := ht
  id _ hid := Nat.le_trans hid h
  depth _ hn := hn
  said _ ht := ht

theorem Settings.madeOf_drawn (settings : Settings) (n : Nat) : settings.MadeOf (.drawn n) := by
  constructor <;> simp [Material.drawn]

/-- Nobody is challenged whose identifier is yet to be drawn. -/
def Play.IsDrawn (p : Play) : Prop := p.game.MadeOf (.drawn p.ids.drawn)

namespace Play

variable {p q : Play}

theorem IsDrawn.target_ne (h : p.IsDrawn) :
    ∀ a ∈ p.game.agents, ∀ c ∈ a.challenges.toList, c.target ≠ p.ids.draw.1 := by
  intro a ha c hc he
  have hle : c.target.number ≤ p.ids.drawn := ((h.agents a ha).challenges c hc).1
  have hnumber : c.target.number = p.ids.drawn + 1 := congrArg AgentId.number he
  omega

/-! ## What scores depend on -/

/-- The play without what was said, and with only the challenges that stand. -/
def essence (p : Play) : Play := ⟨⟨p.game.standing, []⟩, p.ids⟩

theorem essence_essence (p : Play) : p.essence.essence = p.essence :=
  congrArg (fun as => (⟨⟨as, []⟩, p.ids⟩ : Play)) (p.game.standing_standing [])

theorem essence_congr (hgame : p.game.standing = q.game.standing) (hids : p.ids = q.ids) :
    p.essence = q.essence := by
  rw [essence, essence, hgame, hids]

theorem scoreAll_essence (p : Play) :
    scoreAll p.essence.game.agents = scoreAll p.game.agents :=
  p.game.scoreAll_standing

theorem agentNamed?_essence (p : Play) (name : Text) :
    p.essence.game.agentNamed? name =
      (p.game.agentNamed? name).map (Agent.facing p.game.present) :=
  p.game.agentNamed?_standing [] name

theorem present_essence (p : Play) : p.essence.game.present = p.game.present :=
  p.game.present_standing []

theorem essence_change {f : Agent → Agent} (hid : ∀ a, (f a).id = a.id)
    (hf : ∀ a, (f a).facing p.game.present = f (a.facing p.game.present)) (name : String) :
    (p.change name f).2.essence = (p.essence.change name f).2.essence := by
  unfold change
  rw [agentNamed?_essence]
  cases p.game.agentNamed? name with
  | none => exact p.essence_essence.symm
  | some a =>
    have hf' : ∀ a : Agent, (f a).facing p.essence.game.present =
        f (a.facing p.essence.game.present) := by
      rw [present_essence]
      exact hf
    refine essence_congr ?_ rfl
    have hright := Game.standing_modifyNamed hid hf' name
    have hstanding : p.essence.game.standing = p.game.standing := p.game.standing_standing []
    rw [hstanding] at hright
    exact (Game.standing_modifyNamed hid hf name).trans hright.symm

theorem essence_change_of_facing {f : Agent → Agent} (hid : ∀ a, (f a).id = a.id)
    (hf : ∀ a, (f a).facing p.game.present = a.facing p.game.present) (name : String) :
    (p.change name f).2.essence = p.essence := by
  unfold change
  split
  · rfl
  · exact essence_congr (Game.standing_modifyNamed_of_facing hid hf name) rfl

end Play

/-! ## Commands -/

namespace Command

open Play

variable {p : Play}

theorem essence_runAddAgent (settings : Settings) (hp : p.IsDrawn) (name : String) :
    (runAddAgent settings p name).2.essence =
      (runAddAgent settings p.essence name).2.essence := by
  have hnamed : (p.essence.game.agentNamed? name).isSome = (p.game.agentNamed? name).isSome := by
    rw [agentNamed?_essence, Option.isSome_map]
  rw [runAddAgent_play, runAddAgent_play, Game.addAgent_newcomer, Game.addAgent_newcomer, hnamed]
  cases (p.game.agentNamed? name).isSome with
  | true => exact p.essence_essence.symm
  | false =>
    have hfresh : ∀ a ∈ p.game.standing, ∀ c ∈ a.challenges.toList, c.target ≠ p.ids.draw.1 := by
      intro a ha c hc
      obtain ⟨b, hb, rfl⟩ := List.mem_map.mp ha
      exact hp.target_ne b hb c (Agent.mem_challenges_facing.mp hc).1
    -- The newcomer's identifier was not drawn before, so nobody has challenged it.
    let new := Agent.newcomer settings name p.ids.draw.1
    have hleft : Game.standing ⟨p.game.agents ++ [new], p.game.transcript⟩ =
        p.game.standing ++ [new] := Game.standing_append rfl hp.target_ne
    have hright : Game.standing ⟨p.game.standing ++ [new], []⟩ =
        Game.standing ⟨p.game.standing, []⟩ ++ [new] :=
      Game.standing_append (g := ⟨p.game.standing, []⟩) rfl hfresh
    rw [Game.standing_standing] at hright
    exact essence_congr (hleft.trans hright.symm) rfl

theorem essence_runRemoveAgent (p : Play) (name : String) :
    (runRemoveAgent p name).2.essence = (runRemoveAgent p.essence name).2.essence := by
  simp only [runRemoveAgent, Game.removeAgent, agentNamed?_essence]
  cases p.game.agentNamed? name with
  | none => exact p.essence_essence.symm
  | some a => exact essence_congr (p.game.standing_eraseP name [] p.game.transcript).symm rfl

theorem essence_runSetIntelligence (p : Play) (name digits : String) :
    (runSetIntelligence p name digits).2.essence =
      (runSetIntelligence p.essence name digits).2.essence := by
  simp only [runSetIntelligence, agentNamed?_essence]
  cases p.game.agentNamed? name with
  | none => exact p.essence_essence.symm
  | some a =>
    cases Text.readDigits digits.toList with
    | error e => exact p.essence_essence.symm
    | ok n =>
      simp only [Option.map_some]
      exact essence_change (f := ({ · with intelligence := n })) (fun _ => rfl) (fun _ => rfl) name

theorem essence_runDisavow (p : Play) (speaker : String) (s : Sentence) :
    (runDisavow p speaker s).2.essence = (runDisavow p.essence speaker s).2.essence := by
  simp only [runDisavow, agentNamed?_essence]
  cases p.game.agentNamed? speaker with
  | none => exact p.essence_essence.symm
  | some a =>
    have hsame : (a.facing p.game.present).avowed = a.avowed := rfl
    simp only [Option.map_some, hsame]
    split
    · exact essence_change (f := (·.disavow s)) (fun _ => rfl) (fun _ => rfl) speaker
    · exact p.essence_essence.symm

/-- A challenge is directed at somebody who is present, so it stands. -/
theorem essence_runChallenge (p : Play) (speaker target : String) (s : Sentence) :
    (runChallenge p speaker target s).2.essence =
      (runChallenge p.essence speaker target s).2.essence := by
  simp only [runChallenge, agentNamed?_essence]
  cases ha : p.game.agentNamed? speaker with
  | none => exact p.essence_essence.symm
  | some a =>
    cases ht : p.game.agentNamed? target with
    | none => exact p.essence_essence.symm
    | some t =>
      have ha' : p.essence.game.agentNamed? speaker = some (a.facing p.game.present) := by
        rw [agentNamed?_essence, ha, Option.map_some]
      have htarget : t.id ∈ p.game.present :=
        List.mem_map_of_mem (List.mem_of_find?_eq_some ht)
      by_cases hs : t.avowed.contains s = true
      · have hleft := a.challenge_eq_some hs
        have hright : (a.facing p.game.present).challenge (t.facing p.game.present) s =
            some ((a.facing p.game.present).disputing ⟨t.id, s⟩) := Agent.challenge_eq_some _ hs
        simp only [Option.map_some, hleft, hright]
        rw [change_const (.disputing ⟨t.id, s⟩) ha, change_const (.disputing ⟨t.id, s⟩) ha']
        exact essence_change (f := .disputing ⟨t.id, s⟩) (fun _ => rfl)
          (Agent.facing_disputing htarget) speaker
      · have hleft : a.challenge t s = none := if_neg hs
        have hright : (a.facing p.game.present).challenge (t.facing p.game.present) s = none :=
          if_neg hs
        simp only [Option.map_some, hleft, hright]
        exact p.essence_essence.symm

/-- Where the target is absent, only challenges are withdrawn that do not stand. -/
theorem essence_runWithdraw (p : Play) (speaker target : String) (s : Sentence) :
    (runWithdraw p speaker target s).2.essence =
      (runWithdraw p.essence speaker target s).2.essence := by
  simp only [runWithdraw, agentNamed?_essence, present_essence]
  cases p.game.agentNamed? speaker with
  | none => exact p.essence_essence.symm
  | some a =>
    cases p.game.agentNamed? target with
    | some t =>
      simp only [Option.map_some]
      exact essence_change (f := (·.withdraw t s)) (fun _ => rfl)
        (fun b => b.facing_withdraw t s) speaker
    | none =>
      -- In the essence no challenge is dangling, so there nothing happens.
      simp only [Option.map_some, Option.map_none, Agent.danglingCount_facing, if_true]
      rw [essence_essence]
      split
      · rfl
      · exact essence_change_of_facing (f := (·.withdrawDangling p.game.present s))
          (fun _ => rfl) (fun b => b.facing_withdrawDangling s) speaker

/-- A command does the same to a play and to its essence. -/
theorem essence_run (settings : Settings) (hp : p.IsDrawn) (c : Command) :
    (c.run settings p).2.essence = (c.run settings p.essence).2.essence := by
  cases c with
  | addAgent name => exact essence_runAddAgent settings hp name
  | removeAgent name => exact essence_runRemoveAgent p name
  | newGame => rw [run, run, runNewGame_play, runNewGame_play]; rfl
  | setIntelligence name digits => exact essence_runSetIntelligence p name digits
  | assert speaker s =>
    exact essence_change (f := (·.assert s)) (fun _ => rfl) (fun _ => rfl) speaker
  | disavow speaker s => exact essence_runDisavow p speaker s
  | challenge speaker target s => exact essence_runChallenge p speaker target s
  | withdraw speaker target s => exact essence_runWithdraw p speaker target s
  | editInference speaker edit kind premises conclusion =>
    exact essence_change
      (f := (·.changeInferences kind (edit.apply (.ofPremises premises conclusion))))
      (fun _ => rfl) (fun _ => rfl) speaker
  | editIncompatibility speaker edit sentences =>
    exact essence_change (f := (·.changeIncompatibilities (edit.apply (.ofList sentences))))
      (fun _ => rfl) (fun _ => rfl) speaker
  | _ => exact p.essence_essence.symm

end Command

/-! ## Lines -/

namespace Interpreter

variable {it : Interpreter} {p q : Play}

theorem isDrawn_reply (hp : p.IsDrawn) (line : String) : (it.reply p line).2.IsDrawn := by
  unfold reply
  split
  next c hc =>
    have hmade := Command.madeOf_of_parse? (m := .drawn (c.run it.settings p).2.ids.drawn)
      (fun _ => trivial) (fun _ => trivial) hc
    have hlater := hp.within (Material.drawn_within (Command.drawn_le_run it.settings p c))
    exact (Command.madeOf_run hlater (it.settings.madeOf_drawn _) hmade fun _ hn => hn).game
  next => exact hp

theorem isDrawn_execute (hp : p.IsDrawn) (line : String) : (it.execute p line).2.IsDrawn := by
  have hreply : (it.reply p line).2.IsDrawn := isDrawn_reply hp line
  rw [execute_snd]
  cases answerOf it.width (it.reply p line).1 with
  | ok t => exact Game.MadeOf.record hreply trivial trivial
  | error e => exact hreply

theorem isDrawn_playAfter (hp : p.IsDrawn) (lines : List String) :
    (it.playAfter p lines).IsDrawn := by
  induction lines generalizing p with
  | nil => exact hp
  | cons line lines ih => exact ih (isDrawn_execute hp line)

/-- What is said does not matter. -/
theorem essence_execute_eq (it : Interpreter) (p : Play) (line : String) :
    (it.execute p line).2.essence = (it.reply p line).2.essence := by
  rw [execute_snd]
  cases answerOf it.width (it.reply p line).1 <;> rfl

theorem essence_execute (it : Interpreter) (hp : p.IsDrawn) (line : String) :
    (it.execute p line).2.essence = (it.execute p.essence line).2.essence := by
  rw [essence_execute_eq, essence_execute_eq, reply, reply]
  cases Command.parse? line with
  | none => exact p.essence_essence.symm
  | some c => exact Command.essence_run it.settings hp c

/-- Plays of one essence stay so, whatever lines follow. -/
theorem essence_playAfter (it : Interpreter) (hp : p.IsDrawn) (hq : q.IsDrawn)
    (h : p.essence = q.essence) (lines : List String) :
    (it.playAfter p lines).essence = (it.playAfter q lines).essence := by
  induction lines generalizing p q with
  | nil => exact h
  | cons line lines ih =>
    refine ih (isDrawn_execute hp line) (isDrawn_execute hq line) ?_
    rw [essence_execute it hp, essence_execute it hq, h]

/-- In a game that some lines have led to, challenges whose targets have left never count again:
without them any further lines lead to the same scores, in the same order. -/
theorem scoreAll_withoutDangling (it : Interpreter) (ids : IdSupply) (before after : List String) :
    let p := it.playAfter ⟨{}, ids⟩ before
    scoreAll (it.playAfter (p.withGame p.game.withoutDangling) after).game.agents =
      scoreAll (it.playAfter p after).game.agents := by
  intro p
  have hstart : Play.IsDrawn ⟨{}, ids⟩ := Game.madeOf_empty
  have hp : p.IsDrawn := isDrawn_playAfter hstart before
  have hcleared : (p.withGame p.game.withoutDangling).IsDrawn := by
    refine ⟨?_, hp.transcript⟩
    intro a ha
    obtain ⟨b, hb, rfl⟩ := List.mem_map.mp ha
    have hmade := hp.agents b hb
    exact { hmade with challenges := hmade.challenges.filter }
  have hessence : (p.withGame p.game.withoutDangling).essence = p.essence :=
    Play.essence_congr (p.game.standing_standing p.game.transcript) rfl
  rw [← Play.scoreAll_essence, essence_playAfter it hcleared hp hessence, Play.scoreAll_essence]

/-- The answers can differ: in the one game there is a challenge to withdraw, in the other one there
is nobody of that name. -/
example :
    let it : Interpreter := {}
    let p := it.playAfter {} ["add agent Ann", "add agent Bob", "Bob asserts A is red.",
      "Ann challenges Bob's entitlement to A is red.", "remove agent Bob"]
    let line := "Ann withdraws her challenge to Bob's entitlement to A is red."
    p.game.agents.map (·.challenges.size) = [1] ∧
      (it.execute (p.withGame p.game.withoutDangling) line).1 ≠ (it.execute p line).1 := by
  decide +kernel

end Interpreter

end Discourse
