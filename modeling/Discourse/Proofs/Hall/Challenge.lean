import Discourse.Hall.Operation
import Discourse.Proofs.Attribution.Challenges
import Discourse.Proofs.Hall.Seats

/-!
# A challenge and its withdrawal

A challenge goes on record with its issuer and nowhere else. It can take a sentence out of the
pool, so it can take entitlements away, and it gives none. A challenge that was not on record before
is undone by its withdrawal.

* `Hall.putOnRecord`, `Hall.challenge_eq`: what a challenge does to a hall.
* `Hall.mem_pool_putOnRecord_iff`: the pool with one more challenge on record.
* `Hall.withdraw_putOnRecord`: a challenge that is withdrawn.
* `Hall.challenge_takes_away`: what is lost, and what is given back.
-/

namespace Discourse.Hall

open OrderedSet

variable {h : Hall} {i j n : Nat} {a b t : Agent} {s x : Sentence}

/-! ## Challenges on record -/

/-- The hall once the agent of a number has one more challenge on record. -/
def putOnRecord (h : Hall) (i : Nat) (c : Challenge) : Hall :=
  h.change i (Agent.disputing c)

/-- A challenge that is possible goes on record with its issuer. -/
theorem challenge_eq (ha : h.person? i = some a) (ht : h.person? j = some t)
    (hs : (a.challenge t s).isSome = true) : h.challenge i j s = h.putOnRecord i ⟨t.id, s⟩ := by
  have havowed : t.avowed.contains s = true := by
    by_contra hnot
    rw [Agent.challenge, if_neg hnot] at hs
    cases hs
  simp only [challenge, ha, ht, a.challenge_eq_some havowed]
  exact change_congr ha rfl

section Record

variable {c c' : Challenge}

theorem person?_putOnRecord (h : Hall) (i n : Nat) (c : Challenge) :
    (h.putOnRecord i c).person? n = (h.person? n).map fun b =>
      b.withChallenges (if i = n then b.challenges.insert c else b.challenges) := by
  have hsame : ∀ b : Agent, (if i = n then b.disputing c else b) =
      b.withChallenges (if i = n then b.challenges.insert c else b.challenges) := by
    intro b
    split <;> rfl
  rw [putOnRecord, person?_change]
  simp only [hsame]

/-- Whoever is seated then is somebody who was seated before. -/
theorem mem_game_putOnRecord : b ∈ (h.putOnRecord i c).game.agents ↔
    ∃ n ∈ h.seated, ∃ a, h.person? n = some a ∧
      a.withChallenges (if i = n then a.challenges.insert c else a.challenges) = b := by
  simp only [mem_game, person?_putOnRecord, Option.map_eq_some_iff]
  rfl

theorem forall_not_mem_challenges_iff (hi : i ∈ h.seated) (ha : h.person? i = some a) :
    (∀ b ∈ (h.putOnRecord i c).game.agents, c' ∉ b.challenges) ↔
      (∀ b ∈ h.game.agents, c' ∉ b.challenges) ∧ c' ≠ c := by
  have hrecord : ∀ (n : Nat) (b : Agent),
      c' ∈ (if i = n then b.challenges.insert c else b.challenges) ↔
        c' ∈ b.challenges ∨ i = n ∧ c' = c := by
    intro n b
    by_cases hn : i = n
    · rw [if_pos hn, mem_insert, beq_iff_eq]
      exact or_congr_right ⟨fun he => ⟨hn, he.symm⟩, fun he => he.2.symm⟩
    · simp [hn]
  constructor
  · intro hall
    have hafter : ∀ n ∈ h.seated, ∀ b, h.person? n = some b →
        ¬ (c' ∈ b.challenges ∨ i = n ∧ c' = c) := by
      intro n hn b hb hmem
      exact hall _ (mem_game_putOnRecord.mpr ⟨n, hn, b, hb, rfl⟩) ((hrecord n b).mpr hmem)
    refine ⟨?_, fun he => hafter i hi a ha (Or.inr ⟨rfl, he⟩)⟩
    intro b hb hmem
    obtain ⟨n, hn, hb⟩ := mem_game.mp hb
    exact hafter n hn b hb (Or.inl hmem)
  · rintro ⟨hbefore, hne⟩ b hb hmem
    obtain ⟨n, hn, b, hperson, rfl⟩ := mem_game_putOnRecord.mp hb
    rcases (hrecord n b).mp hmem with hmem | ⟨-, he⟩
    · exact hbefore b (mem_game.mpr ⟨n, hn, hperson⟩) hmem
    · exact hne he

/-! ## The pool -/

theorem mem_pool_game : x ∈ pool h.game.agents ↔ ∃ n ∈ h.seated, ∃ b, h.person? n = some b ∧
    x ∈ unchallengedAssertions h.game.agents b := by
  simp only [mem_pool, mem_unchallengedAssertions]
  constructor
  · rintro ⟨b, hb, hx⟩
    obtain ⟨n, hn, hperson⟩ := mem_game.mp hb
    exact ⟨n, hn, b, hperson, hx⟩
  · rintro ⟨n, hn, b, hperson, hx⟩
    exact ⟨b, mem_game.mpr ⟨n, hn, hperson⟩, hx⟩

/-- With one more challenge on record the pool has what was avowed and not challenged before, and
is not challenged by the new one either. -/
theorem mem_pool_putOnRecord (hi : i ∈ h.seated) (ha : h.person? i = some a) :
    x ∈ pool (h.putOnRecord i c).game.agents ↔
      ∃ n ∈ h.seated, ∃ b, h.person? n = some b ∧
        x ∈ unchallengedAssertions h.game.agents b ∧ (⟨b.id, x⟩ : Challenge) ≠ c := by
  simp only [mem_pool, forall_not_mem_challenges_iff hi ha, mem_unchallengedAssertions]
  constructor
  · rintro ⟨b, hb, havowed, hall, hne⟩
    obtain ⟨n, hn, b, hperson, rfl⟩ := mem_game_putOnRecord.mp hb
    exact ⟨n, hn, b, hperson, ⟨havowed, hall⟩, hne⟩
  · rintro ⟨n, hn, b, hperson, ⟨havowed, hall⟩, hne⟩
    exact ⟨_, mem_game_putOnRecord.mpr ⟨n, hn, b, hperson, rfl⟩, havowed, hall, hne⟩

/-- The pool loses the challenged sentence unless somebody else avows it unchallenged, and it loses
nothing else. -/
theorem mem_pool_putOnRecord_iff (hids : h.game.present.Nodup) (hi : i ∈ h.seated)
    (hj : j ∈ h.seated) (ha : h.person? i = some a) (ht : h.person? j = some t) :
    x ∈ pool (h.putOnRecord i ⟨t.id, s⟩).game.agents ↔ x ∈ pool h.game.agents ∧
      (x = s → ∃ n ∈ h.seated, n ≠ j ∧ ∃ b, h.person? n = some b ∧
        s ∈ unchallengedAssertions h.game.agents b) := by
  rw [mem_pool_putOnRecord hi ha, mem_pool_game]
  constructor
  · rintro ⟨n, hn, b, hperson, hx, hne⟩
    refine ⟨⟨n, hn, b, hperson, hx⟩, ?_⟩
    rintro rfl
    refine ⟨n, hn, ?_, b, hperson, hx⟩
    rintro rfl
    rw [ht] at hperson
    cases hperson
    exact hne rfl
  · rintro ⟨⟨n, hn, b, hperson, hx⟩, hother⟩
    -- For the challenged sentence somebody else is at hand, who has another identifier.
    by_cases hxs : x = s
    · obtain ⟨n, hn, hnj, b, hperson, hx⟩ := hother hxs
      have hid : b.id ≠ t.id := apart_of_nodup hids hn hj hnj hperson ht
      refine ⟨n, hn, b, hperson, hxs ▸ hx, ?_⟩
      intro he
      exact hid (congrArg Challenge.target he)
    · refine ⟨n, hn, b, hperson, hx, ?_⟩
      intro he
      exact hxs (congrArg Challenge.sentence he)

end Record

/-! ## What is lost and given back -/

/-- The withdrawal of a challenge that was not on record before leaves everybody as before. -/
theorem withdraw_putOnRecord (ha : h.person? i = some a) (ht : h.person? j = some t)
    (hnew : (⟨t.id, s⟩ : Challenge) ∉ a.challenges) :
    (h.putOnRecord i ⟨t.id, s⟩).withdraw i j s = h := by
  have htarget := person?_putOnRecord h i j ⟨t.id, s⟩
  rw [ht, Option.map_some] at htarget
  have herase : (a.challenges.insert ⟨t.id, s⟩).erase ⟨t.id, s⟩ = a.challenges :=
    erase_insert_of_not_mem hnew
  simp only [withdraw, htarget]
  rw [putOnRecord, change_change]
  refine change_eq_self ha ?_
  simp only [Agent.disputing, Agent.withChallenges, Agent.withdraw, herase]

/-- A challenge can only take entitlements away: whoever scores whom, what is attributed after it
was attributed before. The pool loses at most the challenged sentence, and loses it just when
nobody else in the game avows it unchallenged. When the challenge was not on record before, its
withdrawal leaves everybody as before, and so every score. -/
theorem challenge_takes_away (hids : h.game.present.Nodup) (hi : i ∈ h.seated)
    (hj : j ∈ h.seated) (ha : h.person? i = some a) (ht : h.person? j = some t)
    (hs : (a.challenge t s).isSome = true) :
    let h' := h.challenge i j s
    (∀ m n keeper other, h.person? m = some keeper → h.person? n = some other →
      ∃ keeper' other', h'.person? m = some keeper' ∧ h'.person? n = some other' ∧
        ∀ x ∈ entitlements h'.game.agents keeper' other',
          x ∈ entitlements h.game.agents keeper other) ∧
    (∀ x, x ∈ pool h'.game.agents ↔ x ∈ pool h.game.agents ∧
      (x = s → ∃ n ∈ h.seated, n ≠ j ∧ ∃ b, h.person? n = some b ∧
        s ∈ unchallengedAssertions h.game.agents b)) ∧
    ((⟨t.id, s⟩ : Challenge) ∉ a.challenges → h'.withdraw i j s = h) := by
  intro h'
  have hafter : h' = h.putOnRecord i ⟨t.id, s⟩ := challenge_eq ha ht hs
  rw [hafter]
  have hpool : ∀ x, x ∈ pool (h.putOnRecord i ⟨t.id, s⟩).game.agents → x ∈ pool h.game.agents :=
    fun x hx => ((mem_pool_putOnRecord_iff hids hi hj ha ht).mp hx).1
  refine ⟨?_, fun x => mem_pool_putOnRecord_iff hids hi hj ha ht, withdraw_putOnRecord ha ht⟩
  intro m n keeper other hkeeper hother
  have hkeeper' := person?_putOnRecord h i m ⟨t.id, s⟩
  have hother' := person?_putOnRecord h i n ⟨t.id, s⟩
  rw [hkeeper, Option.map_some] at hkeeper'
  rw [hother, Option.map_some] at hother'
  exact ⟨_, _, hkeeper', hother', fun x hx => entitlements_of_pool_subset hpool _ _ hx⟩

/-- Bob has avowed a sentence that Ann disputes. -/
def annAndBob : Hall := Hall.after {} {} [.join "Ann" {}, .join "Bob" {}, .assert 1 "A is red"]

/-- Ann's challenge takes the sentence out of the pool, and its withdrawal puts it back. -/
theorem challenge_takes_away_annAndBob :
    let h := annAndBob
    let h' := h.challenge 0 1 "A is red"
    (pool h.game.agents).toList = ["A is red"] ∧ (pool h'.game.agents).toList = [] ∧
      h'.withdraw 0 1 "A is red" = h := by
  refine ⟨by decide +kernel, by decide +kernel, ?_⟩
  have ha : (annAndBob.person? 0).isSome = true := by decide +kernel
  have ht : (annAndBob.person? 1).isSome = true := by decide +kernel
  have hs : (((annAndBob.person? 0).get ha).challenge ((annAndBob.person? 1).get ht)
      "A is red").isSome = true := by decide +kernel +revert
  have hnew : (⟨((annAndBob.person? 1).get ht).id, "A is red"⟩ : Challenge) ∉
      ((annAndBob.person? 0).get ha).challenges := by decide +kernel +revert
  obtain ⟨-, -, hback⟩ := challenge_takes_away (h := annAndBob) (i := 0) (j := 1)
    (by decide +kernel) (by decide +kernel) (by decide +kernel)
    (Option.some_get ha).symm (Option.some_get ht).symm hs
  exact hback hnew

end Discourse.Hall
