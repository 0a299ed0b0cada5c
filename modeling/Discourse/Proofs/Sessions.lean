import Discourse.Proofs.Snapshot.Rebuilding
import Discourse.Sessions

/-!
# What is stored is what was saved

A game that is saved over another one is read back from what is stored then, whatever was stored
before. Saving under one number leaves the other numbers alone, and a new number is not in use.

* `StoredGame.game_update`: a game is read back.
* `Sessions.create_eq_ok`, `Sessions.load?_eq_ok`, `Sessions.save?_eq_ok`: what succeeds.
* `Sessions.get?_of_create`, `Sessions.get?_of_save?`: what is stored then.
* `Sessions.Keeps`: a store that has whatever another one has, one number aside.
-/

namespace Discourse

namespace StoredGame

/-! ## One game -/

theorem map_exchange_numberFrom (first : Nat) (es : List Exchange) :
    (numberFrom first es).map TranscriptRow.exchange = es := by
  induction es generalizing first with
  | nil => rfl
  | cons e es ih => rw [numberFrom, List.map_cons, ih]

/-- Rows that are kept are the beginning of the transcript, so nothing is lost or doubled. -/
theorem transcript_update (s : StoredGame) (snapshot : Snapshot) :
    (s.update snapshot).transcript = snapshot.transcript := by
  rw [transcript, update, List.map_append, map_exchange_numberFrom]
  split
  next h =>
    obtain ⟨rest, hrest⟩ := List.isPrefixOf_iff_prefix.mp h
    have hlength : s.rows.length = s.transcript.length := (List.length_map _).symm
    rw [hlength, ← hrest, List.drop_left]
    rfl
  next => rfl

/-- A game is read back from what is stored once it is saved. -/
theorem game_update (s : StoredGame) (g : Game) : (s.update g.snapshot).game = g := by
  rw [game, transcript_update]
  exact Game.ofSnapshot_snapshot g

theorem loneHalves?_eq_none {es : List Exchange}
    (h : ∀ e ∈ es, e.input.isWhole = true ∧ e.output.isWhole = true) : loneHalves? es = none := by
  rw [loneHalves?, List.findSome?_eq_none_iff]
  intro e he
  rw [Text.loneHalves?_eq_none_iff.mpr (h e he).1, Text.loneHalves?_eq_none_iff.mpr (h e he).2]
  rfl

end StoredGame

namespace Sessions

variable {s s' : Sessions} {id m n : Nat} {g : Game}

/-! ## Numbers -/

theorem isWord_natCast_iff : isWord n = true ↔ n < wordBound := by
  rw [isWord, Bool.and_eq_true, decide_eq_true_eq, decide_eq_true_eq, Int.ofNat_lt]
  omega

theorem le_foldl_max {ns : List Nat} (first : Nat) :
    first ≤ ns.foldl max first ∧ ∀ n ∈ ns, n ≤ ns.foldl max first := by
  induction ns generalizing first with
  | nil => exact ⟨Nat.le_refl first, fun _ hn => nomatch hn⟩
  | cons k ns ih =>
    obtain ⟨hfirst, hns⟩ := ih (max first k)
    rw [List.foldl_cons, List.forall_mem_cons]
    exact ⟨by omega, by omega, hns⟩

theorem lt_nextId (h : n ∈ s.ids) : n < s.nextId :=
  Nat.lt_succ_of_le ((le_foldl_max 0).2 n h)

/-! ## Storing, changing and reading -/

theorem get?_cons (entry : Nat × StoredGame) (stored : List (Nat × StoredGame)) (id : Int) :
    get? ⟨entry :: stored⟩ id = if (entry.1 : Int) = id then some entry.2 else get? ⟨stored⟩ id := by
  by_cases h : (entry.1 : Int) = id
  · have hbeq : ((entry.1 : Int) == id) = true := beq_iff_eq.mpr h
    rw [get?, List.find?_cons, hbeq, if_pos h, Option.map_some]
  · have hbeq : ((entry.1 : Int) == id) = false := beq_eq_false_iff_ne.mpr h
    rw [get?, List.find?_cons, hbeq, if_neg h, get?]

theorem get?_append (s : Sessions) (n : Nat) (stored : StoredGame) (id : Int) :
    get? ⟨s.stored ++ [(n, stored)]⟩ id =
      (s.get? id).or (if (n : Int) = id then some stored else none) := by
  obtain ⟨entries⟩ := s
  induction entries with
  | nil => exact get?_cons (n, stored) [] id
  | cons entry entries ih =>
    rw [List.cons_append, get?_cons, get?_cons, ih]
    split <;> rfl

theorem get?_modify (s : Sessions) (k id : Int) (f : StoredGame → StoredGame) :
    (s.modify k f).get? id = if k = id then (s.get? id).map f else s.get? id := by
  obtain ⟨entries⟩ := s
  induction entries with
  | nil => exact (ite_self _).symm
  | cons entry entries ih =>
    have hcons : modify ⟨entry :: entries⟩ k f =
        ⟨(if (entry.1 : Int) = k then (entry.1, f entry.2) else entry) ::
          (modify ⟨entries⟩ k f).stored⟩ := by
      rw [modify, List.map_cons]
      simp only [beq_iff_eq, modify]
    rw [hcons, get?_cons, get?_cons, ih]
    by_cases hk : (entry.1 : Int) = k
    · subst hk
      by_cases hid : (entry.1 : Int) = id <;> simp [hid]
    · by_cases hid : (entry.1 : Int) = id
      · subst hid
        simp [hk, Ne.symm hk]
      · simp [hk, hid]

theorem mem_ids_of_get? {stored : StoredGame} (h : s.get? n = some stored) : n ∈ s.ids := by
  obtain ⟨entry, hentry, -⟩ := Option.map_eq_some_iff.mp h
  have hn := List.find?_some hentry
  rw [beq_iff_eq, Int.natCast_inj] at hn
  exact hn ▸ List.mem_map_of_mem (List.mem_of_find?_eq_some hentry)

theorem get?_nextId (s : Sessions) : s.get? s.nextId = none := by
  cases hs : s.get? s.nextId with
  | none => rfl
  | some stored => exact absurd (lt_nextId (mem_ids_of_get? hs)) (Nat.lt_irrefl _)

@[simp] theorem ids_modify (s : Sessions) (id : Int) (f : StoredGame → StoredGame) :
    (s.modify id f).ids = s.ids := by
  rw [ids, ids, modify, List.map_map]
  refine List.map_congr_left fun entry _ => ?_
  rw [Function.comp_apply]
  split <;> rfl

@[simp] theorem nextId_modify (s : Sessions) (id : Int) (f : StoredGame → StoredGame) :
    (s.modify id f).nextId = s.nextId := by
  rw [nextId, nextId, ids_modify]

theorem nextId_append (s : Sessions) (stored : StoredGame) :
    nextId ⟨s.stored ++ [(s.nextId, stored)]⟩ = s.nextId + 1 := by
  have hids : ids ⟨s.stored ++ [(s.nextId, stored)]⟩ = s.ids ++ [s.nextId] := by simp [ids]
  rw [nextId, hids, List.foldl_append, List.foldl_cons, List.foldl_nil]
  exact congrArg (· + 1) (Nat.max_eq_right (Nat.le_succ _))

/-! ## What succeeds -/

/-- A transcript of characters is stored under the next number. -/
theorem create_eq_ok (s : Sessions) (h : StoredGame.loneHalves? g.transcript = none) :
    s.create g =
      .ok (s.nextId, ⟨s.stored ++ [(s.nextId, StoredGame.update {} g.snapshot)]⟩) := by
  rw [create, h]

theorem load?_eq_ok {stored : StoredGame} (hn : isWord n = true)
    (h : s.get? n = some stored) : s.load? n = .ok (some stored.game) := by
  rw [load?, if_pos hn, h, Option.map_some]

/-- A transcript of characters is saved under a number in use. -/
theorem save?_eq_ok {stored : StoredGame} (hn : isWord n = true)
    (h : s.get? n = some stored) (hg : StoredGame.loneHalves? g.transcript = none) :
    s.save? n g = .ok (some (s.modify n (·.update g.snapshot))) := by
  rw [save?, hn, h, hg]
  rfl

/-- What is loaded is what is stored. -/
theorem exists_of_load? {k : Int} (h : s.load? k = .ok (some g)) :
    ∃ stored, s.get? k = some stored ∧ stored.game = g := by
  unfold load? at h
  split at h
  · exact Option.map_eq_some_iff.mp (Except.ok.inj h)
  · cases h

/-- A new session holds its game, and was not there before. -/
theorem get?_of_create (h : s.create g = .ok (n, s')) :
    s.get? n = none ∧ (∀ k : Int, k ≠ n → s'.get? k = s.get? k) ∧
      ∃ stored, s'.get? n = some stored ∧ stored.game = g := by
  unfold create at h
  split at h
  · cases h
  · cases h
    refine ⟨get?_nextId s, fun k hk => ?_, _, ?_, StoredGame.game_update {} g⟩
    · rw [get?_append, if_neg (Ne.symm hk), Option.or_none]
    · rw [get?_append, get?_nextId, if_pos rfl, Option.none_or]

/-- A session that is there is saved, if nothing goes wrong. -/
theorem exists_of_save? {k : Int} {stored : StoredGame} {saved : Option Sessions}
    (hk : s.get? k = some stored) (h : s.save? k g = .ok saved) : ∃ s', saved = some s' := by
  unfold save? at h
  split at h
  · cases h
  · split at h
    next hnone => cases hnone.symm.trans hk
    · cases h
    · exact ⟨_, (Except.ok.inj h).symm⟩

/-- A saved session holds the game, and the others are as before. -/
theorem get?_of_save? {k : Int} (h : s.save? k g = .ok (some s')) :
    (∀ i : Int, i ≠ k → s'.get? i = s.get? i) ∧
      ∃ stored, s'.get? k = some stored ∧ stored.game = g := by
  unfold save? at h
  split at h
  · cases h
  · split at h
    · cases h
    · cases h
    next stored hstored _ =>
      cases h
      refine ⟨fun i hi => ?_, _, ?_, StoredGame.game_update stored g⟩
      · rw [get?_modify, if_neg (Ne.symm hi)]
      · rw [get?_modify, if_pos rfl, hstored, Option.map_some]

theorem nextId_save? {k : Int} (h : s.save? k g = .ok (some s')) :
    s'.nextId = s.nextId := by
  unfold save? at h
  split at h
  · cases h
  · split at h <;> cases h
    exact nextId_modify s k _

/-! ## Everything but one number -/

/-- The second store has what the first one has, one number aside, and uses no number of the first
one anew. -/
structure Keeps (id : Nat) (s s' : Sessions) : Prop where
  get? : ∀ n : Nat, n ≠ id → s'.get? n = s.get? n
  nextId : s.nextId ≤ s'.nextId

theorem Keeps.refl (id : Nat) (s : Sessions) : Keeps id s s :=
  ⟨fun _ _ => rfl, Nat.le_refl _⟩

theorem Keeps.trans {s'' : Sessions} (h : Keeps id s s') (h' : Keeps id s' s'') :
    Keeps id s s'' :=
  ⟨fun n hn => (h'.get? n hn).trans (h.get? n hn), Nat.le_trans h.nextId h'.nextId⟩

theorem keeps_append (s : Sessions) (stored : StoredGame) :
    Keeps s.nextId s ⟨s.stored ++ [(s.nextId, stored)]⟩ := by
  refine ⟨fun n hn => ?_, ?_⟩
  · have hne : (s.nextId : Int) ≠ n := by omega
    rw [get?_append, if_neg hne, Option.or_none]
  · rw [nextId_append]
    exact Nat.le_succ _

theorem keeps_modify (s : Sessions) (id : Nat) (f : StoredGame → StoredGame) :
    Keeps id s (s.modify id f) := by
  refine ⟨fun n hn => ?_, ?_⟩
  · have hne : (id : Int) ≠ n := by omega
    rw [get?_modify, if_neg hne]
  · exact Nat.le_of_eq (nextId_modify s id f).symm

end Sessions

end Discourse
