import Discourse.Hall
import Mathlib.Data.List.Basic
import Mathlib.Data.List.Pairwise

/-!
# Seats and numbers

Whatever is done to the agent of a number shows at that number only. Those who are seated are found
under the numbers of their seats, and where they differ in something, different seats do.

* `Hall.person?_change`, `Hall.change_congr`: a change to one agent.
* `Hall.mem_game`, `Hall.game_seat`, `Hall.agents_game_of_prefix`: who is seated.
* `Hall.agentNamed?_game`: looking up a name by seats.
* `Hall.apart_of_nodup`: what differs between all who are seated tells seats apart.
-/

namespace Discourse.Hall

variable {h : Hall} {i j n : Nat} {a b t : Agent}

/-! ## Changes to one agent -/

theorem person?_change (h : Hall) (i n : Nat) (f : Agent → Agent) :
    (h.change i f).person? n = (h.person? n).map fun a => if i = n then f a else a :=
  List.getElem?_modify f i h.people n

theorem change_change (h : Hall) (i : Nat) (f f' : Agent → Agent) :
    (h.change i f).change i f' = h.change i fun a => f' (f a) := by
  have hpeople : (h.people.modify i f).modify i f' = h.people.modify i fun a => f' (f a) :=
    List.modify_modify_eq f f' i h.people
  rw [change, change, hpeople]
  rfl

/-- Only what a change does to the agent of the number matters. -/
theorem change_congr {f f' : Agent → Agent} (ha : h.person? i = some a) (hf : f a = f' a) :
    h.change i f = h.change i f' := by
  have hpeople : h.people.modify i f = h.people.modify i f' := by
    apply List.ext_getElem?
    intro n
    rw [List.getElem?_modify, List.getElem?_modify]
    by_cases hn : i = n
    · subst hn
      have hi : h.people[i]? = some a := ha
      simp [hi, hf]
    · simp [hn]
  rw [change, change, hpeople]

theorem change_eq_self {f : Agent → Agent} (ha : h.person? i = some a) (hf : f a = a) :
    h.change i f = h := by
  have hsame : h.change i f = h.change i id := change_congr ha hf
  rw [hsame, change, List.modify_id]

/-! ## Those who are seated -/

theorem mem_game : b ∈ h.game.agents ↔ ∃ n ∈ h.seated, h.person? n = some b :=
  List.mem_filterMap

/-- What differs between all who are seated differs between those of different seats. -/
theorem apart_of_nodup {β : Type} {key : Agent → β} (hkeys : (h.game.agents.map key).Nodup)
    (hi : i ∈ h.seated) (hj : j ∈ h.seated) (hne : i ≠ j) (ha : h.person? i = some a)
    (ht : h.person? j = some t) : key a ≠ key t := by
  have hseats : h.seated.Pairwise fun m n =>
      ∀ a, h.person? m = some a → ∀ t, h.person? n = some t → key a ≠ key t := by
    rw [← List.pairwise_filterMap]
    exact List.pairwise_map.mp hkeys
  have : Std.Symm fun m n =>
      ∀ a, h.person? m = some a → ∀ t, h.person? n = some t → key a ≠ key t :=
    ⟨fun _ _ hmn a ha t ht => (hmn t ht a ha).symm⟩
  exact hseats.forall hi hj hne a ha t ht

/-- Whoever comes in later does not change who is seated, as long as every seat is taken. -/
theorem agents_game_of_prefix {h' : Hall} (hfilled : ∀ n ∈ h.seated, n < h.people.length)
    (hseated : h'.seated = h.seated) (hpeople : h.people <+: h'.people) :
    h'.game.agents = h.game.agents := by
  obtain ⟨later, hlater⟩ := hpeople
  have hsame : ∀ n ∈ h.seated, h'.person? n = h.person? n := by
    intro n hn
    rw [person?, ← hlater, List.getElem?_append_left (hfilled n hn)]
    rfl
  rw [game, game, hseated]
  exact List.filterMap_congr hsame

theorem filterMap_getElem?_range' (people as : List Agent) :
    (List.range' people.length as.length).filterMap (fun n => (people ++ as)[n]?) = as := by
  induction as generalizing people with
  | nil => rfl
  | cons a as ih =>
    have hfirst : (people ++ a :: as)[people.length]? = some a := by simp
    have hrest := ih (people ++ [a])
    rw [List.length_append, List.length_singleton, List.append_assoc] at hrest
    rw [List.length_cons, List.range'_succ, List.filterMap_cons_some hfirst]
    exact congrArg (a :: ·) hrest

/-- A game that is seated is the game of those who are seated. -/
theorem game_seat (h : Hall) (g : Game) (ids : IdSupply) : (h.seat g ids).game = g :=
  congrArg (Game.mk · g.transcript) (filterMap_getElem?_range' h.people g.agents)

/-- A look-up by name goes through the seats in their order. -/
theorem agentNamed?_game (h : Hall) (name : Text) :
    h.game.agentNamed? name = (h.seatOf? name).bind h.person? :=
  List.find?_filterMap

theorem exists_person?_of_seatOf? {name : Text} (hn : h.seatOf? name = some n) :
    ∃ a, h.person? n = some a ∧ Game.hasName name a = true := by
  have hany := List.find?_some hn
  cases ha : h.person? n with
  | none => rw [ha] at hany; cases hany
  | some a => exact ⟨a, rfl, by rwa [ha] at hany⟩

theorem isSome_agentNamed?_game (h : Hall) (name : Text) :
    (h.game.agentNamed? name).isSome = (h.seatOf? name).isSome := by
  rw [agentNamed?_game]
  cases hn : h.seatOf? name with
  | none => rfl
  | some n =>
    obtain ⟨a, ha, -⟩ := exists_person?_of_seatOf? hn
    rw [Option.bind_some, ha]
    rfl

end Discourse.Hall
