import Discourse.Proofs.Game.Names
import Discourse.Proofs.Game.Newcomers
import Mathlib.Data.List.Induction

/-!
# Beginning a game

The configured agents join one after another. The first one whose name was taken by one before it is
refused, and this is the only way in which a game fails to begin.

* `IsFirstTaken`: the first of several names that cannot be had any more.
* `Game.newGame_eq_error_iff`: whom a new game refuses.
* `exists_isFirstTaken_iff`: it refuses somebody just when two of the configured agents share a
  name.
* `Game.BrokenOff`, `Game.newGame_brokenOff`: what is there then.
-/

namespace Discourse

/-- Of the names, which are asked for in this order, the name is the first one that was used already
or asked for before, in whatever case. -/
def IsFirstTaken (used names : List Text) (name : Text) : Prop :=
  ∃ before after, names = before ++ name :: after ∧ (used ++ before.map Text.lower).Nodup ∧
    Text.lower name ∈ used ++ before.map Text.lower

variable {used names : List Text} {name first : Text}

theorem isFirstTaken_cons (hused : used.Nodup) :
    IsFirstTaken used (first :: names) name ↔
      if Text.lower first ∈ used then name = first
      else IsFirstTaken (used ++ [Text.lower first]) names name := by
  split
  next hfirst =>
    constructor
    · rintro ⟨before, after, hnames, hnodup, -⟩
      cases before with
      | nil => exact (List.cons.inj hnames).1.symm
      | cons b before =>
        obtain ⟨rfl, -⟩ := List.cons.inj hnames
        rw [List.map_cons, List.nodup_middle, List.nodup_cons] at hnodup
        exact absurd (List.mem_append_left _ hfirst) hnodup.1
    · rintro rfl
      exact ⟨[], names, rfl, by simpa using hused, by simpa using hfirst⟩
  next hfirst =>
    constructor
    · rintro ⟨before, after, hnames, hnodup, hmem⟩
      cases before with
      | nil =>
        obtain ⟨rfl, -⟩ := List.cons.inj hnames
        exact absurd (by simpa using hmem) hfirst
      | cons b before =>
        obtain ⟨rfl, hrest⟩ := List.cons.inj hnames
        exact ⟨before, after, hrest, by simpa using hnodup, by simpa using hmem⟩
    · rintro ⟨before, after, rfl, hnodup, hmem⟩
      exact ⟨first :: before, after, rfl, by simpa using hnodup, by simpa using hmem⟩

/-- Some name is the first that repeats an earlier one just when two are the same in lower case. -/
theorem exists_isFirstTaken_iff :
    (∃ name, IsFirstTaken [] names name) ↔ ¬ (names.map Text.lower).Nodup := by
  constructor
  · rintro ⟨name, before, after, rfl, -, hmem⟩ hnodup
    rw [List.map_append, List.map_cons, List.nodup_middle, List.nodup_cons] at hnodup
    exact hnodup.1 (List.mem_append_left _ hmem)
  · intro hnodup
    induction names using List.reverseRecOn with
    | nil => exact absurd List.nodup_nil hnodup
    | append_singleton names last ih =>
      by_cases hnames : (names.map Text.lower).Nodup
      · refine ⟨last, names, [], rfl, hnames, ?_⟩
        by_contra hlast
        refine hnodup ?_
        rw [List.map_append, List.map_singleton]
        exact List.Nodup.append hnames (List.nodup_singleton _)
          (List.disjoint_singleton.mpr hlast)
      · obtain ⟨name, before, after, hsplit, hbefore, hmem⟩ := ih hnames
        exact ⟨name, before, after ++ [last], by rw [hsplit, List.append_assoc]; rfl, hbefore, hmem⟩

namespace Game

variable {g : Game} {settings : Settings}

/-- The names of those present, in lower case. -/
def taken (g : Game) : List Text := g.agents.map fun a => Text.lower a.name

theorem isSome_agentNamed?_iff_mem_taken :
    (g.agentNamed? name).isSome = true ↔ Text.lower name ∈ g.taken := by
  rw [isSome_agentNamed?_iff, taken, List.mem_map]

/-- Of those who ask one after another, the first one that asks for a taken name is refused. -/
theorem addAgents_eq_error_iff (ids : IdSupply) (h : g.NamesDiffer) {e : GameError} :
    (g.addAgents settings ids names).1 = .error e ↔
      ∃ name, IsFirstTaken g.taken names name ∧ e = .duplicateName name := by
  induction names generalizing g ids with
  | nil => simp [addAgents, IsFirstTaken]
  | cons first names ih =>
    have hdiffer : g.taken.Nodup := h
    have hadd := h.addAgent settings first {} ids
    rw [addAgent_newcomer] at hadd
    rw [addAgents, addAgent_newcomer]
    simp only [isFirstTaken_cons hdiffer, ← isSome_agentNamed?_iff_mem_taken]
    cases hfirst : (g.agentNamed? first).isSome with
    | true => simp [eq_comm]
    | false =>
      let joined : Game := { g with agents := g.agents ++ [.newcomer settings first ids.draw.1] }
      have hjoined : joined.NamesDiffer := by simpa [hfirst] using hadd
      have htaken : joined.taken = g.taken ++ [Text.lower first] := List.map_append
      simpa [htaken] using ih ids.draw.2 hjoined

/-- A game does not begin when a configured agent has the name of one before it. -/
theorem newGame_eq_error_iff (ids : IdSupply) {e : GameError} :
    (newGame settings ids).1 = .error e ↔
      ∃ name, IsFirstTaken [] settings.seedAgents name ∧ e = .duplicateName name :=
  addAgents_eq_error_iff ids namesDiffer_empty

/-- The configured agents begin a game when no two of them share a name. -/
theorem newGame_fst (ids : IdSupply) (hnames : (settings.seedAgents.map Text.lower).Nodup) :
    (newGame settings ids).1 = .ok () := by
  cases hnew : (newGame settings ids).1 with
  | ok _ => rfl
  | error e =>
    obtain ⟨name, hname, -⟩ := (newGame_eq_error_iff ids).mp hnew
    exact absurd hnames (exists_isFirstTaken_iff.mp ⟨name, hname⟩)

/-! ## What is there when somebody is refused -/

/-- A beginning that was broken off: only those are there who come before the one that is refused,
one of them has its name, and nothing was said. -/
def BrokenOff (g : Game) (settings : Settings) (e : GameError) : Prop :=
  ∃ before name after, settings.seedAgents = before ++ name :: after ∧
    Text.lower name ∈ before.map Text.lower ∧ e = .duplicateName name ∧
    g.agents.map Agent.name = before ∧ g.transcript = []

/-- Those before the one that is refused have joined, and its name is taken. -/
theorem addAgents_of_error {ids : IdSupply} {e : GameError}
    (h : (g.addAgents settings ids names).1 = .error e) :
    ∃ before name after, names = before ++ name :: after ∧ e = .duplicateName name ∧
      (g.addAgents settings ids names).2.1.agents.map Agent.name =
        g.agents.map Agent.name ++ before ∧
      ((g.addAgents settings ids names).2.1.agentNamed? name).isSome = true := by
  induction names generalizing g ids with
  | nil => cases h
  | cons first names ih =>
    rw [addAgents, addAgent_newcomer] at h ⊢
    cases hfirst : (g.agentNamed? first).isSome with
    | true =>
      rw [hfirst] at h
      cases h
      exact ⟨[], first, names, rfl, rfl, (List.append_nil _).symm, hfirst⟩
    | false =>
      rw [hfirst] at h
      obtain ⟨before, name, after, rfl, he, hagents, hname⟩ := ih h
      refine ⟨first :: before, name, after, rfl, he, hagents.trans ?_, hname⟩
      rw [List.map_append, List.append_assoc]
      rfl

theorem newGame_brokenOff {ids : IdSupply} {e : GameError}
    (h : (newGame settings ids).1 = .error e) :
    (newGame settings ids).2.1.BrokenOff settings e := by
  obtain ⟨before, name, after, hnames, he, hagents, hname⟩ := addAgents_of_error h
  have hbefore : (newGame settings ids).2.1.agents.map Agent.name = before := hagents
  obtain ⟨a, ha, hlower⟩ := isSome_agentNamed?_iff.mp hname
  have hmem : a.name ∈ before := hbefore ▸ List.mem_map_of_mem ha
  exact ⟨before, name, after, hnames, List.mem_map.mpr ⟨a.name, hmem, hlower⟩, he, hbefore,
    transcript_newGame settings ids⟩

end Game

end Discourse
