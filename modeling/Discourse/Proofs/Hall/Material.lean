import Discourse.Hall.Operation
import Discourse.Proofs.Game.Material
import Discourse.Proofs.Snapshot.Rebuilding

/-!
# What a hall is made of

Everybody in a hall is of the material of which the settings and the operations are, and so is
what was said.

* `Hall.MadeOf`: the properties of a material hold of everything in a hall.
* `Hall.MadeOf.perform`: an operation of the material keeps them.
* `Hall.madeOf_after`: they hold after any operations of the material.
-/

namespace Discourse.Hall

variable {m : Material} {h : Hall}

/-- Everybody and everything said in a hall is of the material. -/
structure MadeOf (m : Material) (h : Hall) : Prop where
  people : ∀ a ∈ h.people, a.MadeOf m
  transcript : ∀ e ∈ h.transcript, m.said e.input ∧ m.said e.output

/-- What an operation brings into the hall is of the material. -/
def Operation.MadeOf (m : Material) : Operation → Prop
  | .join name seed | .enter name seed => m.text name ∧ seed.MadeOf m
  | .leave _ | .newGame | .reset | .rebuild => True
  | .record input output => m.said input ∧ m.said output
  | .setIntelligence _ value => m.depth value.toNat
  | .assert _ s | .disavow _ s | .challenge _ _ s | .withdraw _ _ s | .withdrawDangling _ s =>
    m.text s
  | .editInference _ _ _ premises conclusion => (∀ t ∈ premises, m.text t) ∧ m.text conclusion
  | .editIncompatibility _ _ sentences => ∀ t ∈ sentences, m.text t

instance [DecidablePred m.text] [DecidablePred m.id] [DecidablePred m.depth]
    [DecidablePred m.said] : DecidablePred (Operation.MadeOf m)
  | .join _ _ | .enter _ _ | .record _ _ | .editInference _ _ _ _ _ =>
    inferInstanceAs (Decidable (_ ∧ _))
  | .leave _ | .newGame | .reset | .rebuild => .isTrue trivial
  | .setIntelligence _ value => inferInstanceAs (Decidable (m.depth value.toNat))
  | .assert _ s | .disavow _ s | .challenge _ _ s | .withdraw _ _ s | .withdrawDangling _ s =>
    inferInstanceAs (Decidable (m.text s))
  | .editIncompatibility _ _ sentences => inferInstanceAs (Decidable (∀ t ∈ sentences, m.text t))

theorem madeOf_empty : MadeOf m {} := by
  constructor <;> rintro _ ⟨⟩

theorem MadeOf.person? {n : Nat} {a : Agent} (hm : h.MadeOf m) (ha : h.person? n = some a) :
    a.MadeOf m :=
  hm.people a (List.mem_of_getElem? ha)

theorem MadeOf.game (hm : h.MadeOf m) : h.game.MadeOf m := by
  refine ⟨?_, hm.transcript⟩
  intro a ha
  obtain ⟨n, -, hn⟩ := List.mem_filterMap.mp ha
  exact hm.person? hn

/-! ## Coming and going -/

theorem MadeOf.seat {g : Game} {ids : IdSupply} (hm : h.MadeOf m) (hg : g.MadeOf m) :
    (h.seat g ids).MadeOf m := by
  refine ⟨?_, hg.transcript⟩
  intro a ha
  rcases List.mem_append.mp ha with ha | ha
  · exact hm.people a ha
  · exact hg.agents a ha

/-- A newcomer is refused for its depth or comes in last. -/
theorem enter_cases (h : Hall) (defaults : Settings) (name : Text) (seed : Seed) :
    (∃ e ids, Agent.create defaults name seed h.ids = (.error e, ids) ∧
      h.enter defaults name seed = (.error e, { h with ids })) ∨
    (∃ a ids, Agent.create defaults name seed h.ids = (.ok a, ids) ∧
      h.enter defaults name seed =
        (.ok h.people.length, { h with people := h.people ++ [a], ids })) := by
  unfold enter
  cases hc : Agent.create defaults name seed h.ids with
  | mk result ids =>
    cases result with
    | error e => exact Or.inl ⟨e, ids, rfl, rfl⟩
    | ok a => exact Or.inr ⟨a, ids, rfl, rfl⟩

theorem drawn_le_enter (h : Hall) (defaults : Settings) (name : Text) (seed : Seed) :
    h.ids.drawn ≤ (h.enter defaults name seed).2.ids.drawn := by
  have hcreate := Agent.drawn_le_create defaults name seed h.ids
  rcases enter_cases h defaults name seed with ⟨e, ids, hc, he⟩ | ⟨a, ids, hc, he⟩
  · rw [he]
    rwa [hc] at hcreate
  · rw [he]
    rwa [hc] at hcreate

/-- A newcomer is refused for its name, refused for its depth, or comes in last and takes the last
seat. -/
theorem join_cases (h : Hall) (defaults : Settings) (name : Text) (seed : Seed) :
    ((h.seatOf? name).isSome = true ∧
      h.join defaults name seed = (.error (.duplicateName name), h)) ∨
    (h.seatOf? name = none ∧ ∃ e ids, Agent.create defaults name seed h.ids = (.error e, ids) ∧
      h.join defaults name seed = (.error e, { h with ids })) ∨
    (h.seatOf? name = none ∧ ∃ a ids, Agent.create defaults name seed h.ids = (.ok a, ids) ∧
      h.join defaults name seed =
        (.ok h.people.length,
          ⟨h.people ++ [a], h.seated ++ [h.people.length], h.transcript, ids⟩)) := by
  unfold join
  cases hn : h.seatOf? name with
  | some n => exact Or.inl ⟨rfl, rfl⟩
  | none =>
    rcases enter_cases h defaults name seed with ⟨e, ids, hc, he⟩ | ⟨a, ids, hc, he⟩
    · rw [he]
      exact Or.inr (Or.inl ⟨rfl, e, ids, hc, rfl⟩)
    · rw [he]
      exact Or.inr (Or.inr ⟨rfl, a, ids, hc, rfl⟩)

theorem drawn_le_join (h : Hall) (defaults : Settings) (name : Text) (seed : Seed) :
    h.ids.drawn ≤ (h.join defaults name seed).2.ids.drawn := by
  have hcreate := Agent.drawn_le_create defaults name seed h.ids
  rcases join_cases h defaults name seed with
    ⟨-, he⟩ | ⟨-, e, ids, hc, he⟩ | ⟨-, a, ids, hc, he⟩
  · exact Nat.le_of_eq (congrArg (·.2.ids.drawn) he.symm)
  · rw [he]
    rwa [hc] at hcreate
  · rw [he]
    rwa [hc] at hcreate

/-- Somebody of the material comes in last, seated or not. -/
theorem MadeOf.admit {a : Agent} {seated : List Nat} {ids : IdSupply} (hm : h.MadeOf m)
    (ha : a.MadeOf m) : MadeOf m ⟨h.people ++ [a], seated, h.transcript, ids⟩ := by
  refine ⟨?_, hm.transcript⟩
  intro b hb
  rcases List.mem_append.mp hb with hb | hb
  · exact hm.people b hb
  · rw [List.mem_singleton.mp hb]
    exact ha

theorem MadeOf.enter {defaults : Settings} {name : Text} {seed : Seed} (hm : h.MadeOf m)
    (hd : defaults.MadeOf m) (hname : m.text name) (hseed : seed.MadeOf m)
    (hids : ∀ n ≤ (h.enter defaults name seed).2.ids.drawn, m.id ⟨n⟩) :
    (h.enter defaults name seed).2.MadeOf m := by
  rcases enter_cases h defaults name seed with ⟨e, ids, hc, he⟩ | ⟨a, ids, hc, he⟩
  · rw [he]
    exact ⟨hm.people, hm.transcript⟩
  · rw [he] at hids ⊢
    exact hm.admit (.create hd hname hseed hids hc)

theorem MadeOf.join {defaults : Settings} {name : Text} {seed : Seed} (hm : h.MadeOf m)
    (hd : defaults.MadeOf m) (hname : m.text name) (hseed : seed.MadeOf m)
    (hids : ∀ n ≤ (h.join defaults name seed).2.ids.drawn, m.id ⟨n⟩) :
    (h.join defaults name seed).2.MadeOf m := by
  rcases join_cases h defaults name seed with
    ⟨-, he⟩ | ⟨-, e, ids, hc, he⟩ | ⟨-, a, ids, hc, he⟩
  · rwa [he]
  · rw [he]
    exact ⟨hm.people, hm.transcript⟩
  · rw [he] at hids ⊢
    exact hm.admit (.create hd hname hseed hids hc)

/-- Whoever leaves only gives up a seat. -/
theorem perform_leave (h : Hall) (defaults : Settings) (name : Text) :
    ∃ seated, (h.perform defaults (.leave name)).2 = { h with seated } := by
  simp only [perform, leave]
  cases h.getSeat name with
  | ok n => exact ⟨h.seated.erase n, rfl⟩
  | error e => exact ⟨h.seated, rfl⟩

/-! ## What agents do to themselves -/

theorem mem_modify {α : Type} {as : List α} {n : Nat} {f : α → α} {b : α}
    (hb : b ∈ as.modify n f) : b ∈ as ∨ ∃ a, as[n]? = some a ∧ b = f a := by
  obtain ⟨i, hi⟩ := List.mem_iff_getElem?.mp hb
  rw [List.getElem?_modify] at hi
  obtain ⟨a, ha, rfl⟩ := Option.map_eq_some_iff.mp hi
  by_cases hn : n = i
  · subst hn
    exact Or.inr ⟨a, ha, if_pos rfl⟩
  · left
    simp only [hn, if_false]
    exact List.mem_of_getElem? ha

/-- Only the agent of the number has to stay of the material. -/
theorem MadeOf.change {n : Nat} {f : Agent → Agent} (hm : h.MadeOf m)
    (hf : ∀ a : Agent, a.MadeOf m → (f a).MadeOf m) : (h.change n f).MadeOf m := by
  refine ⟨?_, hm.transcript⟩
  intro b hb
  rcases mem_modify hb with hb | ⟨a, ha, rfl⟩
  · exact hm.people b hb
  · exact hf a (hm.person? ha)

theorem MadeOf.setIntelligence {n : Nat} {value : Int} (hm : h.MadeOf m)
    (hvalue : m.depth value.toNat) : (h.setIntelligence n value).2.MadeOf m := by
  unfold Hall.setIntelligence
  split
  · exact hm
  next a ha =>
    split
    next hs => exact hm.change fun _ _ => (hm.person? ha).setIntelligence hvalue hs
    next => exact hm

theorem MadeOf.challenge {n target : Nat} {s : Sentence} (hm : h.MadeOf m) (hs : m.text s) :
    (h.challenge n target s).MadeOf m := by
  unfold Hall.challenge
  split
  next a t ha ht =>
    split
    next hc => exact hm.change fun _ _ => (hm.person? ha).challenge (hm.person? ht) hs hc
    next => exact hm
  next => exact hm

theorem MadeOf.withdraw {n target : Nat} {s : Sentence} (hm : h.MadeOf m) :
    (h.withdraw n target s).MadeOf m := by
  unfold Hall.withdraw
  split
  · exact hm.change fun _ ha => ha.withdraw
  · exact hm

/-! ## Operations -/

/-- Only newcomers and new games draw identifiers. -/
theorem ids_setIntelligence (h : Hall) (n : Nat) (value : Int) :
    (h.setIntelligence n value).2.ids = h.ids := by
  unfold setIntelligence
  split
  · rfl
  · split <;> rfl

theorem ids_challenge (h : Hall) (n target : Nat) (s : Sentence) :
    (h.challenge n target s).ids = h.ids := by
  unfold challenge
  split
  · split <;> rfl
  · rfl

theorem ids_withdraw (h : Hall) (n target : Nat) (s : Sentence) :
    (h.withdraw n target s).ids = h.ids := by
  unfold withdraw
  split <;> rfl

theorem drawn_le_perform (defaults : Settings) (h : Hall) (o : Operation) :
    h.ids.drawn ≤ (h.perform defaults o).2.ids.drawn := by
  cases o with
  | join name seed => exact drawn_le_join h defaults name seed
  | enter name seed => exact drawn_le_enter h defaults name seed
  | leave name =>
    obtain ⟨seated, he⟩ := perform_leave h defaults name
    exact Nat.le_of_eq (congrArg (·.ids.drawn) he.symm)
  | newGame => exact Game.drawn_le_addAgents {} defaults defaults.seedAgents h.ids
  | setIntelligence n value =>
    exact Nat.le_of_eq (congrArg IdSupply.drawn (ids_setIntelligence h n value).symm)
  | challenge n target s =>
    exact Nat.le_of_eq (congrArg IdSupply.drawn (ids_challenge h n target s).symm)
  | withdraw n target s =>
    exact Nat.le_of_eq (congrArg IdSupply.drawn (ids_withdraw h n target s).symm)
  | _ => exact Nat.le_refl _

/-- An operation of the material keeps the hall of the material. -/
theorem MadeOf.perform {defaults : Settings} {o : Operation} (hm : h.MadeOf m)
    (hd : defaults.MadeOf m) (ho : o.MadeOf m)
    (hids : ∀ n ≤ (h.perform defaults o).2.ids.drawn, m.id ⟨n⟩) :
    (h.perform defaults o).2.MadeOf m := by
  cases o with
  | join name seed => exact hm.join hd ho.1 ho.2 hids
  | enter name seed => exact hm.enter hd ho.1 ho.2 hids
  | leave name =>
    obtain ⟨seated, he⟩ := perform_leave h defaults name
    rw [he]
    exact ⟨hm.people, hm.transcript⟩
  | newGame => exact hm.seat (Game.madeOf_newGame h.ids hd hids)
  | reset => exact hm.seat Game.madeOf_empty
  | rebuild =>
    rw [Hall.perform, Game.ofSnapshot_snapshot]
    exact hm.seat hm.game
  | record input output =>
    refine ⟨hm.people, ?_⟩
    intro e he
    rcases List.mem_append.mp he with he | he
    · exact hm.transcript e he
    · rw [List.mem_singleton.mp he]
      exact ho
  | setIntelligence n value => exact hm.setIntelligence ho
  | assert n s => exact hm.change fun _ ha => ha.assert ho
  | disavow n s => exact hm.change fun _ ha => ha.disavow
  | challenge n target s => exact hm.challenge ho
  | withdraw n target s => exact hm.withdraw
  | withdrawDangling n s => exact hm.change fun _ ha => ha.withdrawDangling
  | editInference n edit kind premises conclusion =>
    exact hm.change fun _ ha => ha.editInference (Inference.madeOf_ofPremises ho.1 ho.2)
  | editIncompatibility n edit sentences =>
    exact hm.change fun _ ha => ha.editIncompatibility (OrderedSet.all_ofList ho)

theorem drawn_le_after (defaults : Settings) (h : Hall) (operations : List Operation) :
    h.ids.drawn ≤ (h.after defaults operations).ids.drawn := by
  induction operations generalizing h with
  | nil => exact Nat.le_refl _
  | cons o operations ih => exact Nat.le_trans (drawn_le_perform defaults h o) (ih _)

/-- After operations of the material the hall is of the material. -/
theorem MadeOf.after {defaults : Settings} {operations : List Operation} (hm : h.MadeOf m)
    (hd : defaults.MadeOf m) (ho : ∀ o ∈ operations, o.MadeOf m)
    (hids : ∀ n ≤ (h.after defaults operations).ids.drawn, m.id ⟨n⟩) :
    (h.after defaults operations).MadeOf m := by
  induction operations generalizing h with
  | nil => exact hm
  | cons o operations ih =>
    obtain ⟨hfirst, hrest⟩ := List.forall_mem_cons.mp ho
    have hstep := hm.perform hd hfirst fun n hn =>
      hids n (Nat.le_trans hn (drawn_le_after defaults _ operations))
    exact ih hstep hrest hids

end Discourse.Hall
