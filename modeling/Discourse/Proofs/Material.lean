import Discourse.Command
import Discourse.Snapshot
import Discourse.Proofs.OrderedSet.Membership

/-!
# What agents are made of

The texts, identifiers and depths in an agent all come from outside: from its seed, from the
settings, and from what it is told. So what holds of all that comes in holds of all that is in an
agent, whatever it does.

* `Material`: a property of texts, one of identifiers, one of depths, and one of what is said.
* `Agent.MadeOf`: these hold of everything in an agent.
* `Agent.MadeOf.create`, `Agent.MadeOf.assert`, `Agent.MadeOf.challenge`, …: they hold of a newcomer
  and keep holding.
* `Material.Within`, `Agent.MadeOf.within`: materials that have more.
-/

namespace Discourse

/-! ## Elements of ordered sets -/

namespace OrderedSet

variable {α : Type} [BEq α]

/-- The property holds of all elements. -/
def All (p : α → Prop) (s : OrderedSet α) : Prop := ∀ a ∈ s.toList, p a

instance {p : α → Prop} [DecidablePred p] : DecidablePred (All p) :=
  fun s => inferInstanceAs (Decidable (∀ a ∈ s.toList, p a))

variable {p : α → Prop} {s : OrderedSet α}

theorem all_empty : (∅ : OrderedSet α).All p := by
  rintro a ⟨⟩

theorem All.insert {a : α} (h : s.All p) (ha : p a) : (s.insert a).All p := by
  intro b hb
  cases hc : s.contains a with
  | true =>
    rw [toList_insert_of_contains hc] at hb
    exact h b hb
  | false =>
    rw [toList_insert_of_not_contains hc, List.mem_append, List.mem_singleton] at hb
    rcases hb with hb | rfl
    · exact h b hb
    · exact ha

theorem All.insertAll {items : List α} (h : s.All p) (hitems : ∀ a ∈ items, p a) :
    (s.insertAll items).All p := by
  induction items generalizing s with
  | nil => exact h
  | cons a items ih =>
    obtain ⟨ha, hitems⟩ := List.forall_mem_cons.mp hitems
    exact ih (h.insert ha) hitems

theorem all_ofList {items : List α} (h : ∀ a ∈ items, p a) : (ofList items).All p :=
  all_empty.insertAll h

theorem All.filter {q : α → Bool} (h : s.All p) : (s.filter q).All p :=
  fun a ha => h a (List.mem_filter.mp ha).1

theorem All.erase {a : α} (h : s.All p) : (s.erase a).All p := h.filter

/-- Only what is added has to have the property. -/
theorem All.edit {edit : Edit} {a : α} (h : s.All p) (ha : edit = .add → p a) :
    (edit.apply a s).All p := by
  cases edit with
  | add => exact h.insert (ha rfl)
  | remove => exact h.erase

end OrderedSet

/-! ## Rules and agents -/

/-- What the names and sentences, the identifiers, the depths and the entries of a transcript may
be. -/
structure Material where
  text : Text → Prop
  id : AgentId → Prop := fun _ => True
  depth : Nat → Prop := fun _ => True
  said : Text → Prop := fun _ => True

variable {m : Material}

/-- The sentences of an inference are of the material. -/
structure Inference.MadeOf (m : Material) (i : Inference) : Prop where
  premises : i.premises.All m.text
  conclusion : m.text i.conclusion

/-- The sentences of all rules are of the material. -/
structure RuleBook.MadeOf (m : Material) (rules : RuleBook) : Prop where
  committive : rules.committive.All (Inference.MadeOf m)
  permissive : rules.permissive.All (Inference.MadeOf m)
  incompatibilities : rules.incompatibilities.All (OrderedSet.All m.text)

/-- Everything in an agent is of the material. -/
structure Agent.MadeOf (m : Material) (a : Agent) : Prop where
  id : m.id a.id
  name : m.text a.name
  depth : m.depth a.intelligence
  avowed : a.avowed.All m.text
  rules : a.rules.MadeOf m
  challenges : a.challenges.All fun c => m.id c.target ∧ m.text c.sentence

/-- What is configured for newcomers and for new games is of the material. -/
structure Settings.MadeOf (m : Material) (s : Settings) : Prop where
  depth : m.depth s.defaultIntelligence
  committive : ∀ r ∈ s.defaultCommittive, (∀ t ∈ r.premises, m.text t) ∧ m.text r.conclusion
  permissive : ∀ r ∈ s.defaultPermissive, (∀ t ∈ r.premises, m.text t) ∧ m.text r.conclusion
  incompatibilities : ∀ i ∈ s.defaultIncompatibilities, ∀ t ∈ i, m.text t
  seedAgents : ∀ t ∈ s.seedAgents, m.text t

/-- What a newcomer brings along is of the material. -/
structure Seed.MadeOf (m : Material) (seed : Seed) : Prop where
  committive : ∀ is ∈ seed.committive, ∀ i ∈ is, i.MadeOf m
  permissive : ∀ is ∈ seed.permissive, ∀ i ∈ is, i.MadeOf m
  incompatibilities : ∀ is ∈ seed.incompatibilities, ∀ i ∈ is, i.All m.text
  depth : ∀ n ∈ seed.intelligence, m.depth n.toNat
  id : ∀ id ∈ seed.id, m.id id

section Decidable

variable [DecidablePred m.text] [DecidablePred m.id] [DecidablePred m.depth]

instance : DecidablePred (Inference.MadeOf m) := fun _ =>
  decidable_of_iff (_ ∧ _) ⟨fun h => ⟨h.1, h.2⟩, fun h => ⟨h.premises, h.conclusion⟩⟩

instance : DecidablePred (Settings.MadeOf m) := fun _ =>
  decidable_of_iff (_ ∧ _ ∧ _ ∧ _ ∧ _) ⟨fun h => ⟨h.1, h.2.1, h.2.2.1, h.2.2.2.1, h.2.2.2.2⟩,
    fun h => ⟨h.depth, h.committive, h.permissive, h.incompatibilities, h.seedAgents⟩⟩

instance : DecidablePred (Seed.MadeOf m) := fun _ =>
  decidable_of_iff (_ ∧ _ ∧ _ ∧ _ ∧ _) ⟨fun h => ⟨h.1, h.2.1, h.2.2.1, h.2.2.2.1, h.2.2.2.2⟩,
    fun h => ⟨h.committive, h.permissive, h.incompatibilities, h.depth, h.id⟩⟩

end Decidable

theorem Inference.madeOf_ofPremises {premises : List Sentence} {conclusion : Sentence}
    (hp : ∀ t ∈ premises, m.text t) (hc : m.text conclusion) :
    (ofPremises premises conclusion).MadeOf m :=
  ⟨OrderedSet.all_ofList hp, hc⟩

/-! ## Edited rules -/

namespace RuleBook

variable {rules : RuleBook} {edit : Edit}

theorem MadeOf.editInference {kind : InferenceKind} {i : Inference} (h : rules.MadeOf m)
    (hi : edit = .add → i.MadeOf m) : (rules.changeInferences kind (edit.apply i)).MadeOf m := by
  cases kind with
  | committive => exact { h with committive := h.committive.edit hi }
  | permissive => exact { h with permissive := h.permissive.edit hi }

theorem MadeOf.editIncompatibility {i : Incompatibility} (h : rules.MadeOf m)
    (hi : edit = .add → i.All m.text) :
    (rules.changeIncompatibilities (edit.apply i)).MadeOf m :=
  { h with incompatibilities := h.incompatibilities.edit hi }

end RuleBook

/-! ## Newcomers -/

/-- A seed that leaves everything to the settings. -/
theorem Seed.madeOf_empty : Seed.MadeOf m {} := by
  constructor <;> rintro _ ⟨⟩

theorem Seed.madeOf_inferencesOf {specs : List RuleSpec}
    (h : ∀ r ∈ specs, (∀ t ∈ r.premises, m.text t) ∧ m.text r.conclusion) :
    ∀ i ∈ inferencesOf specs, i.MadeOf m := by
  intro i hi
  obtain ⟨r, hr, rfl⟩ := List.mem_map.mp hi
  exact Inference.madeOf_ofPremises (h r hr).1 (h r hr).2

/-- What is chosen from an option with a default has what both have. -/
theorem forall_mem_getD {α : Type} {p : α → Prop} {o : Option (List α)} {default : List α}
    (h : ∀ as ∈ o, ∀ a ∈ as, p a) (hd : ∀ a ∈ default, p a) : ∀ a ∈ o.getD default, p a := by
  cases o with
  | none => exact hd
  | some as => exact h as rfl

theorem Seed.MadeOf.rules {defaults : Settings} {seed : Seed} (hd : defaults.MadeOf m)
    (h : seed.MadeOf m) : (seed.rules defaults).MadeOf m where
  committive :=
    OrderedSet.all_ofList (forall_mem_getD h.committive (madeOf_inferencesOf hd.committive))
  permissive :=
    OrderedSet.all_ofList (forall_mem_getD h.permissive (madeOf_inferencesOf hd.permissive))
  incompatibilities := by
    refine OrderedSet.all_ofList (forall_mem_getD h.incompatibilities ?_)
    intro i hi
    obtain ⟨ts, hts, rfl⟩ := List.mem_map.mp hi
    exact OrderedSet.all_ofList (hd.incompatibilities ts hts)

namespace Agent

/-- A newcomer has its identifier from its seed or the supply, and the rest from its seed or the
settings. -/
theorem eq_of_create {defaults : Settings} {name : Text} {seed : Seed} {ids ids' : IdSupply}
    {a : Agent} (h : create defaults name seed ids = (.ok a, ids')) :
    a = { id := (seed.drawId ids).1, name
          intelligence := (seed.intelligence.getD defaults.defaultIntelligence).toNat
          avowed := ∅
          rules := seed.rules defaults
          challenges := ∅ } := by
  simp only [create] at h
  split at h
  · cases (Prod.mk.inj h).1
  · exact (Except.ok.inj (Prod.mk.inj h).1).symm

/-- A newcomer is refused for nothing but a negative depth. -/
theorem eq_of_create_eq_error {defaults : Settings} {name : Text} {seed : Seed}
    {ids ids' : IdSupply} {e : GameError} (h : create defaults name seed ids = (.error e, ids')) :
    ∃ value, e = .negativeIntelligence value := by
  simp only [create] at h
  split at h
  · exact ⟨_, (Except.error.inj (Prod.mk.inj h).1).symm⟩
  · cases (Prod.mk.inj h).1

/-- The supply is the same whether a newcomer is refused or not. -/
theorem create_snd (defaults : Settings) (name : Text) (seed : Seed) (ids : IdSupply) :
    (create defaults name seed ids).2 = (seed.drawId ids).2 := by
  simp only [create]
  split <;> rfl

theorem drawn_le_create (defaults : Settings) (name : Text) (seed : Seed) (ids : IdSupply) :
    ids.drawn ≤ (create defaults name seed ids).2.drawn := by
  rw [create_snd, Seed.drawId]
  cases seed.id with
  | none => exact Nat.le_succ ids.drawn
  | some id => exact Nat.le_refl ids.drawn

/-- A newcomer is of the material of its seed and of the settings, if the identifiers drawn so far
are. -/
theorem MadeOf.create {defaults : Settings} {name : Text} {seed : Seed} {ids ids' : IdSupply}
    {a : Agent} (hd : defaults.MadeOf m) (hname : m.text name) (hseed : seed.MadeOf m)
    (hids : ∀ n ≤ ids'.drawn, m.id ⟨n⟩)
    (h : Agent.create defaults name seed ids = (.ok a, ids')) : a.MadeOf m := by
  have hsupply : ids' = (seed.drawId ids).2 := by rw [← create_snd defaults name, h]
  have hdraw : m.id (seed.drawId ids).1 := by
    rw [hsupply] at hids
    unfold Seed.drawId at hids ⊢
    cases hs : seed.id with
    | none =>
      rw [hs] at hids
      exact hids (ids.drawn + 1) (Nat.le_refl _)
    | some id => exact hseed.id id hs
  have hdepth : m.depth (seed.intelligence.getD defaults.defaultIntelligence).toNat := by
    cases hs : seed.intelligence with
    | none => exact hd.depth
    | some n => exact hseed.depth n hs
  rw [eq_of_create h]
  exact ⟨hdraw, hname, hdepth, OrderedSet.all_empty, hseed.rules hd, OrderedSet.all_empty⟩

variable {a : Agent} {s : Sentence}

theorem MadeOf.setIntelligence {a' : Agent} {value : Int} (h : a.MadeOf m)
    (hvalue : m.depth value.toNat) (ha : a.setIntelligence value = .ok a') : a'.MadeOf m := by
  unfold Agent.setIntelligence at ha
  split at ha
  · cases ha
  · cases ha
    exact { h with depth := hvalue }

theorem MadeOf.assert (h : a.MadeOf m) (hs : m.text s) : (a.assert s).MadeOf m :=
  { h with avowed := h.avowed.insert hs }

theorem MadeOf.disavow (h : a.MadeOf m) : (a.disavow s).MadeOf m :=
  { h with avowed := h.avowed.erase }

theorem MadeOf.challenge {target a' : Agent} (h : a.MadeOf m) (ht : target.MadeOf m)
    (hs : m.text s) (ha : a.challenge target s = some a') : a'.MadeOf m := by
  unfold Agent.challenge at ha
  split at ha
  · cases ha
    exact { h with challenges := h.challenges.insert ⟨ht.id, hs⟩ }
  · cases ha

theorem MadeOf.withdraw {target : Agent} (h : a.MadeOf m) : (a.withdraw target s).MadeOf m :=
  { h with challenges := h.challenges.erase }

theorem MadeOf.withdrawDangling {present : List AgentId} (h : a.MadeOf m) :
    (a.withdrawDangling present s).MadeOf m :=
  { h with challenges := h.challenges.filter }

theorem MadeOf.editInference {edit : Edit} {kind : InferenceKind} {i : Inference}
    (h : a.MadeOf m) (hi : i.MadeOf m) : (a.changeInferences kind (edit.apply i)).MadeOf m :=
  { h with rules := h.rules.editInference fun _ => hi }

theorem MadeOf.editIncompatibility {edit : Edit} {i : Incompatibility} (h : a.MadeOf m)
    (hi : i.All m.text) : (a.changeIncompatibilities (edit.apply i)).MadeOf m :=
  { h with rules := h.rules.editIncompatibility fun _ => hi }

end Agent

/-! ## Materials that have more -/

/-- Whatever is of the first material is of the second. -/
structure Material.Within (m m' : Material) : Prop where
  text : ∀ t, m.text t → m'.text t
  id : ∀ id, m.id id → m'.id id
  depth : ∀ n, m.depth n → m'.depth n
  said : ∀ t, m.said t → m'.said t

variable {m' : Material}

theorem Inference.MadeOf.within {i : Inference} (h : i.MadeOf m) (hm : m.Within m') :
    i.MadeOf m' :=
  ⟨fun t ht => hm.text t (h.premises t ht), hm.text _ h.conclusion⟩

theorem Agent.MadeOf.within {a : Agent} (h : a.MadeOf m) (hm : m.Within m') : a.MadeOf m' where
  id := hm.id _ h.id
  name := hm.text _ h.name
  depth := hm.depth _ h.depth
  avowed := fun t ht => hm.text t (h.avowed t ht)
  rules :=
    { committive := fun i hi => (h.rules.committive i hi).within hm
      permissive := fun i hi => (h.rules.permissive i hi).within hm
      incompatibilities := fun i hi t ht => hm.text t (h.rules.incompatibilities i hi t ht) }
  challenges := fun c hc => ⟨hm.id _ (h.challenges c hc).1, hm.text _ (h.challenges c hc).2⟩

end Discourse
