import Discourse.Proofs.Game.Names
import Discourse.Proofs.Hall.Material
import Discourse.Proofs.Hall.Seats

/-!
# Names in a hall

Whatever was done since the table was empty, refused operations among it, no two of those who are
seated share a name. So whatever is asked for by name is asked of one agent, whom the name finds.

* `Hall.Orderly`: every seat is taken, and by agents with different names.
* `Hall.map_getSeat`, `Hall.map_leave`, `Hall.Orderly.game_join`: what is done by name in the hall
  is done in its game.
* `Hall.Orderly.perform`, `Hall.Orderly.after`: it stays so, whatever is done.
* `Hall.names_are_keys_after`: what names are good for.
-/

namespace Discourse.Hall

variable {h : Hall} {n : Nat} {a : Agent} {name : Text}

/-- Every seat is taken by somebody in the hall, and no two who are seated share a name. -/
structure Orderly (h : Hall) : Prop where
  filled : ∀ n ∈ h.seated, n < h.people.length
  differ : h.game.NamesDiffer

/-! ## Looking up and leaving -/

/-- The seat of a name is that of the agent that the game finds. -/
theorem map_getSeat (h : Hall) (name : Text) :
    (h.getSeat name).map h.person? = (h.game.getAgent name).map some := by
  rw [getSeat, Game.getAgent, agentNamed?_game]
  cases hn : h.seatOf? name with
  | none => rfl
  | some n =>
    obtain ⟨a, ha, -⟩ := exists_person?_of_seatOf? hn
    rw [Option.bind_some, ha]
    exact congrArg Except.ok ha

/-- Whoever gives up its seat leaves the game. -/
theorem map_leave (h : Hall) (name : Text) :
    (h.leave name).map (fun r => (h.person? r.1, r.2.game)) =
      (h.game.removeAgent name).map fun r => (some r.1, r.2) := by
  rw [leave, getSeat, Game.removeAgent, agentNamed?_game]
  cases hn : h.seatOf? name with
  | none => rfl
  | some n =>
    obtain ⟨a, ha, hname⟩ := exists_person?_of_seatOf? hn
    obtain ⟨hfound, before, after, hseated, hbefore⟩ := List.find?_eq_some_iff_append.mp hn
    have hfirst : n ∉ before := by
      intro hmem
      have hnot := hbefore n hmem
      rw [hfound] at hnot
      cases hnot
    have hseats : h.seated.erase n = before ++ after := by
      rw [hseated, List.erase_append_right _ hfirst, List.erase_cons_head]
    -- Nobody who sits before has the name, so the game loses the same agent.
    have hothers : ∀ b ∈ before.filterMap h.person?, ¬ Game.hasName name b = true := by
      intro b hb hb'
      obtain ⟨m, hm, hperson⟩ := List.mem_filterMap.mp hb
      have hnot := hbefore m hm
      rw [hperson, Option.any_some, hb'] at hnot
      cases hnot
    have hagents : h.game.agents.eraseP (Game.hasName name) =
        (before ++ after).filterMap h.person? := by
      rw [game, hseated, List.filterMap_append, List.filterMap_cons_some ha,
        List.eraseP_append_right _ hothers, List.eraseP_cons_of_pos hname, List.filterMap_append]
    rw [Option.bind_some, ha]
    simp only [Except.map, ha, hseats, hagents]
    rfl

/-! ## Coming -/

theorem people_prefix_enter (h : Hall) (defaults : Settings) (name : Text) (seed : Seed) :
    (h.enter defaults name seed).2.seated = h.seated ∧
      h.people <+: (h.enter defaults name seed).2.people := by
  rcases enter_cases h defaults name seed with ⟨e, ids, -, he⟩ | ⟨a, ids, -, he⟩
  · rw [he]
    exact ⟨rfl, List.prefix_rfl⟩
  · rw [he]
    exact ⟨rfl, List.prefix_append h.people [a]⟩

/-- Whoever takes a new seat joins the game at its end. -/
theorem Orderly.agents_append (ho : h.Orderly) (a : Agent) (ids : IdSupply) :
    game { h with people := h.people ++ [a], seated := h.seated ++ [h.people.length], ids } =
      { h.game with agents := h.game.agents ++ [a] } := by
  let crowded : Hall := { h with people := h.people ++ [a] }
  have hold : crowded.game.agents = h.game.agents :=
    agents_game_of_prefix ho.filled rfl (List.prefix_append h.people [a])
  have hnew : ([h.people.length].filterMap fun n => (h.people ++ [a])[n]?) = [a] := by simp
  have hagents : ((h.seated ++ [h.people.length]).filterMap fun n => (h.people ++ [a])[n]?) =
      h.game.agents ++ [a] := by
    rw [List.filterMap_append, hnew]
    exact congrArg (· ++ [a]) hold
  exact congrArg (Game.mk · h.transcript) hagents

/-- A newcomer is let into the hall's game as into any game. -/
theorem Orderly.game_join (ho : h.Orderly) (defaults : Settings) (name : Text) (seed : Seed) :
    ((h.join defaults name seed).1.map fun _ => ()) =
        ((h.game.addAgent defaults name seed h.ids).1.map fun _ => ()) ∧
      (h.join defaults name seed).2.game = (h.game.addAgent defaults name seed h.ids).2.1 := by
  have hsame := isSome_agentNamed?_game h name
  rcases join_cases h defaults name seed with
    ⟨hn, he⟩ | ⟨hn, e, ids, hc, he⟩ | ⟨hn, a, ids, hc, he⟩
  · rw [hn] at hsame
    obtain ⟨a, ha⟩ := Option.isSome_iff_exists.mp hsame
    rw [he, Game.addAgent, ha]
    exact ⟨rfl, rfl⟩
  · rw [hn, Option.isSome_none, Option.isSome_eq_false_iff, Option.isNone_iff_eq_none] at hsame
    rw [he, Game.addAgent, hsame, hc]
    exact ⟨rfl, rfl⟩
  · rw [hn, Option.isSome_none, Option.isSome_eq_false_iff, Option.isNone_iff_eq_none] at hsame
    rw [he, Game.addAgent, hsame, hc]
    exact ⟨rfl, ho.agents_append a ids⟩

/-! ## Seats and names are kept -/

theorem orderly_seat {g : Game} (h : Hall) (ids : IdSupply) (hg : g.NamesDiffer) :
    (h.seat g ids).Orderly := by
  refine ⟨?_, by rwa [game_seat]⟩
  intro n hn
  have hlast := (List.mem_range'_1.mp hn).2
  rwa [seat, List.length_append]

theorem Orderly.enter (ho : h.Orderly) (defaults : Settings) (name : Text) (seed : Seed) :
    (h.enter defaults name seed).2.Orderly := by
  obtain ⟨hseated, hpeople⟩ := people_prefix_enter h defaults name seed
  refine ⟨?_, ?_⟩
  · intro n hn
    exact Nat.lt_of_lt_of_le (ho.filled n (hseated ▸ hn)) hpeople.length_le
  · have hagents := agents_game_of_prefix ho.filled hseated hpeople
    rw [Game.NamesDiffer, hagents]
    exact ho.differ

theorem Orderly.filled_join (ho : h.Orderly) (defaults : Settings) (name : Text) (seed : Seed) :
    ∀ n ∈ (h.join defaults name seed).2.seated,
      n < (h.join defaults name seed).2.people.length := by
  rcases join_cases h defaults name seed with
    ⟨-, he⟩ | ⟨-, e, ids, -, he⟩ | ⟨-, a, ids, -, he⟩
  · rw [he]
    exact ho.filled
  · rw [he]
    exact ho.filled
  · rw [he]
    intro n hn
    dsimp only
    rw [List.length_append, List.length_singleton]
    rcases List.mem_append.mp hn with hn | hn
    · exact Nat.lt_succ_of_lt (ho.filled n hn)
    · rw [List.mem_singleton.mp hn]
      exact Nat.lt_succ_self _

theorem Orderly.join (ho : h.Orderly) (defaults : Settings) (name : Text) (seed : Seed) :
    (h.join defaults name seed).2.Orderly := by
  refine ⟨ho.filled_join defaults name seed, ?_⟩
  rw [(ho.game_join defaults name seed).2]
  exact ho.differ.addAgent defaults name seed h.ids

theorem Orderly.leave (ho : h.Orderly) (defaults : Settings) (name : Text) :
    (h.perform defaults (.leave name)).2.Orderly := by
  simp only [perform, Hall.leave]
  cases h.getSeat name with
  | error e => exact ho
  | ok n =>
    have hfewer : (h.seated.erase n).Sublist h.seated := List.erase_sublist
    have hagents := (hfewer.filterMap h.person?).map fun a => Text.lower a.name
    exact ⟨fun m hm => ho.filled m (hfewer.subset hm), List.Nodup.sublist hagents ho.differ⟩

/-- Nobody changes its name. -/
theorem Orderly.change {f : Agent → Agent} (ho : h.Orderly) (n : Nat)
    (hf : ∀ a, h.person? n = some a → (f a).name = a.name) : (h.change n f).Orderly := by
  refine ⟨?_, ho.differ.of_names ?_⟩
  · intro m hm
    rw [Hall.change, List.length_modify]
    exact ho.filled m hm
  · have hnames : ∀ m,
        ((h.change n f).person? m).map Agent.name = (h.person? m).map Agent.name := by
      intro m
      rw [person?_change, Option.map_map]
      refine Option.map_congr fun a ha => ?_
      by_cases hm : n = m
      · subst hm
        exact (congrArg Agent.name (if_pos rfl)).trans (hf a ha)
      · exact congrArg Agent.name (if_neg hm)
    rw [game, game, List.map_filterMap, List.map_filterMap]
    exact List.filterMap_congr fun m _ => hnames m

theorem Orderly.setIntelligence (ho : h.Orderly) (n : Nat) (value : Int) :
    (h.setIntelligence n value).2.Orderly := by
  unfold Hall.setIntelligence
  split
  · exact ho
  next a ha =>
    split
    next a' hset =>
      refine ho.change n fun b hb => ?_
      rw [Option.some.inj (hb.symm.trans ha)]
      unfold Agent.setIntelligence at hset
      split at hset
      · cases hset
      · cases hset
        rfl
    next => exact ho

theorem Orderly.challenge (ho : h.Orderly) (n target : Nat) (s : Sentence) :
    (h.challenge n target s).Orderly := by
  unfold Hall.challenge
  split
  next a t ha ht =>
    split
    next a' hchallenge =>
      refine ho.change n fun b hb => ?_
      rw [Option.some.inj (hb.symm.trans ha)]
      unfold Agent.challenge at hchallenge
      split at hchallenge
      · cases hchallenge
        rfl
      · cases hchallenge
    next => exact ho
  next => exact ho

theorem Orderly.withdraw (ho : h.Orderly) (n target : Nat) (s : Sentence) :
    (h.withdraw n target s).Orderly := by
  unfold Hall.withdraw
  split
  · exact ho.change n fun _ _ => rfl
  · exact ho

/-! ## Any operations -/

/-- An operation, carried out or refused, leaves the names distinct. -/
theorem Orderly.perform (ho : h.Orderly) (defaults : Settings) (o : Operation) :
    (h.perform defaults o).2.Orderly := by
  cases o with
  | join name seed => exact ho.join defaults name seed
  | enter name seed => exact ho.enter defaults name seed
  | leave name => exact ho.leave defaults name
  | newGame => exact orderly_seat h _ (Game.namesDiffer_newGame defaults h.ids)
  | reset => exact orderly_seat h _ Game.namesDiffer_empty
  | rebuild =>
    rw [Hall.perform, Game.ofSnapshot_snapshot]
    exact orderly_seat h _ ho.differ
  | record input output => exact ⟨ho.filled, ho.differ⟩
  | setIntelligence n value => exact ho.setIntelligence n value
  | challenge n target s => exact ho.challenge n target s
  | withdraw n target s => exact ho.withdraw n target s
  | assert n s => exact ho.change n fun _ _ => rfl
  | disavow n s => exact ho.change n fun _ _ => rfl
  | withdrawDangling n s => exact ho.change n fun _ _ => rfl
  | editInference n edit kind premises conclusion => exact ho.change n fun _ _ => rfl
  | editIncompatibility n edit sentences => exact ho.change n fun _ _ => rfl

theorem orderly_empty : Orderly {} := by
  refine ⟨?_, Game.namesDiffer_empty⟩
  rintro n ⟨⟩

theorem Orderly.after (ho : h.Orderly) (defaults : Settings) (operations : List Operation) :
    (h.after defaults operations).Orderly := by
  induction operations generalizing h with
  | nil => exact ho
  | cons o operations ih => exact ih (ho.perform defaults o)

/-- After any operations, refused ones among them, every name means one agent at most, and that one
for whatever is done by name in the game. In the hall the same happens: newcomers are let in or
refused as by the game, and the seat of a name is that of the agent whom the game finds or loses. -/
theorem names_are_keys_after (defaults : Settings) (operations : List Operation) :
    let h := Hall.after defaults {} operations
    h.game.NamesAreKeys ∧
      (∀ name seed,
        ((h.join defaults name seed).1.map fun _ => ()) =
            ((h.game.addAgent defaults name seed h.ids).1.map fun _ => ()) ∧
          (h.join defaults name seed).2.game =
            (h.game.addAgent defaults name seed h.ids).2.1) ∧
      (∀ name, (h.getSeat name).map h.person? = (h.game.getAgent name).map some) ∧
      ∀ name, (h.leave name).map (fun r => (h.person? r.1, r.2.game)) =
        (h.game.removeAgent name).map fun r => (some r.1, r.2) := by
  intro h
  have ho : h.Orderly := orderly_empty.after defaults operations
  exact ⟨ho.differ.namesAreKeys, ho.game_join defaults, h.map_getSeat, h.map_leave⟩

end Discourse.Hall
