import Discourse.Proofs.Web.Numbers
import Discourse.Proofs.Web.Service
import Mathlib.Data.List.Induction

/-!
# Visitors are served as if they were alone

However the requests of many visitors follow one another, each visitor sees the pages of an
interpreter that keeps a new game for this visitor only, and nobody's session is changed by others.

* `Scene.Serves`: every visitor finds what it has come to, and no two find the same session.
* `Scene.Serves.visit`: a visit.
* `Scene.shows_page_alone`: any visit, whatever visits came before.
-/

namespace Discourse.Web.Scene

variable {Visitor : Type} {settings : Settings} {s : Scene Visitor} {plays : Visitor → Play}

/-- The site knows what each visitor has come to, and each under a number of its own. -/
structure Serves (settings : Settings) (s : Scene Visitor) (plays : Visitor → Play) : Prop where
  knows : ∀ c, s.site.Knows settings (s.cookies c) (plays c)
  apart : ∀ c c' id, s.cookies c = some (sessionPair id) → s.cookies c' = some (sessionPair id) →
    c = c'

/-- Nobody has come yet. -/
theorem serves_fresh (settings : Settings) (site : Site) :
    ({ site } : Scene Visitor).Serves settings fun _ => opening settings :=
  ⟨fun _ => Or.inl ⟨rfl, rfl⟩, fun _ _ _ h => nomatch h⟩

theorem session?_of_none {c : Visitor} (h : s.cookies c = none) : s.session? c = none := by
  rw [session?, h]
  rfl

theorem session?_of_some {c : Visitor} {id : Nat} (h : s.cookies c = some (sessionPair id))
    (hword : isWord id = true) : s.session? c = s.site.sessions.get? id := by
  rw [session?, h, sessionNumber?_sessionPair hword]

/-- The number that a visitor is assigned is no other visitor's. -/
theorem Serves.cookies_ne {c c' : Visitor} {id : Nat} (h : s.Serves settings plays)
    (hassigns : s.site.Assigns (s.cookies c) id) (hne : c' ≠ c) :
    s.cookies c' ≠ some (sessionPair id) := by
  intro hc'
  rcases hassigns with hc | ⟨-, hid⟩
  · exact hne (h.apart c' c id hc' hc)
  · rcases h.knows c' with ⟨hnone, -⟩ | ⟨m, hm, hholds⟩
    · rw [hnone] at hc'
      cases hc'
    · have hsame : m = id := sessionPair_inj.mp (Option.some.inj (hm.symm.trans hc'))
      have hlt := hholds.lt_nextId
      omega

variable [DecidableEq Visitor]

theorem cookies_visit_self (settings : Settings) (s : Scene Visitor) (v : Visit Visitor) :
    (s.visit settings v).2.cookies v.visitor =
      (s.visit settings v).1.cookie (s.cookies v.visitor) :=
  if_pos rfl

theorem cookies_visit_of_ne (settings : Settings) (s : Scene Visitor) (v : Visit Visitor)
    {c : Visitor} (hc : c ≠ v.visitor) : (s.visit settings v).2.cookies c = s.cookies c :=
  if_neg hc

/-- The sessions of others are as before. -/
theorem Serves.session?_visit (hnames : (settings.seedAgents.map Text.lower).Nodup)
    (hs : settings.IsWhole) (hroom : isWord s.site.sessions.nextId = true)
    (h : s.Serves settings plays) (v : Visit Visitor) {c : Visitor} (hc : c ≠ v.visitor) :
    (s.visit settings v).2.session? c = s.session? c := by
  obtain ⟨id, hserved⟩ := exists_served hnames hs hroom (h.knows v.visitor) v.errand
  have hsame := cookies_visit_of_ne settings s v hc
  rcases h.knows c with ⟨hnone, -⟩ | ⟨m, hm, hholds⟩
  · rw [session?_of_none hnone, session?_of_none (hsame.trans hnone)]
  · have hword := isWord_of_le (Nat.le_of_lt hholds.lt_nextId) hroom
    have hdiffers : m ≠ id := by
      rintro rfl
      exact h.cookies_ne hserved.assigns hc hm
    rw [session?_of_some hm hword, session?_of_some (hsame.trans hm) hword]
    exact hserved.keeps.sessions.get? m hdiffers

/-- A visit shows its page, and then every visitor finds what it has come to. -/
theorem Serves.visit (hnames : (settings.seedAgents.map Text.lower).Nodup)
    (hs : settings.IsWhole) (hroom : isWord s.site.sessions.nextId = true)
    (h : s.Serves settings plays) (v : Visit Visitor) :
    (s.visit settings v).1.Shows
        (v.errand.page settings (plays v.visitor) (s.cookies v.visitor).isNone) ∧
      (s.visit settings v).2.Serves settings fun c =>
        if c = v.visitor then v.errand.play settings (plays c) else plays c := by
  obtain ⟨id, hserved⟩ := exists_served hnames hs hroom (h.knows v.visitor) v.errand
  have hself := cookies_visit_self settings s v
  -- The visitor keeps the cookie it had, or is given one that nobody else holds.
  have hapart : ∀ c k, c ≠ v.visitor → s.cookies c = some (sessionPair k) →
      (s.visit settings v).2.cookies v.visitor ≠ some (sessionPair k) := by
    intro c k hc hk hsome
    rw [hself] at hsome
    rcases hserved.holds with hold | hnew
    · exact hc (h.apart c v.visitor k hk (hold.symm.trans hsome))
    · exact h.cookies_ne hserved.assigns hc (hk.trans (hsome.symm.trans hnew))
  refine ⟨hserved.shows_page, ?_, ?_⟩
  · intro c
    by_cases hc : c = v.visitor
    · rw [hc, if_pos rfl, hself]
      exact hserved.knows
    · rw [if_neg hc, cookies_visit_of_ne settings s v hc]
      exact (h.knows c).kept (h.cookies_ne hserved.assigns hc) hserved.keeps
  · intro c c' k hk hk'
    by_cases hc : c = v.visitor <;> by_cases hc' : c' = v.visitor
    · exact hc.trans hc'.symm
    · rw [cookies_visit_of_ne settings s v hc'] at hk'
      exact absurd (hc ▸ hk) (hapart c' k hc' hk')
    · rw [cookies_visit_of_ne settings s v hc] at hk
      exact absurd (hc' ▸ hk') (hapart c k hc hk)
    · rw [cookies_visit_of_ne settings s v hc] at hk
      rw [cookies_visit_of_ne settings s v hc'] at hk'
      exact h.apart c c' k hk hk'

/-! ## Many visits -/

theorem advances_visit (settings : Settings) (s : Scene Visitor) (v : Visit Visitor) :
    s.site.Advances (s.visit settings v).2.site :=
  advances_respond settings s.site _

theorem after_append_singleton (settings : Settings) (s : Scene Visitor)
    (visits : List (Visit Visitor)) (v : Visit Visitor) :
    s.after settings (visits ++ [v]) = ((s.after settings visits).visit settings v).2 := by
  rw [after, List.foldl_append]
  rfl

theorem aloneAfter_append_singleton (settings : Settings) (c : Visitor)
    (visits : List (Visit Visitor)) (v : Visit Visitor) :
    aloneAfter settings c (visits ++ [v]) =
      if c = v.visitor then v.errand.play settings (aloneAfter settings c visits)
      else aloneAfter settings c visits := by
  rw [aloneAfter, linesOf, List.filterMap_append, Interpreter.playAfter, List.foldl_append]
  by_cases hc : c = v.visitor
  · subst hc
    rw [if_pos rfl]
    cases v with
    | mk visitor errand => cases errand <;> simp [Errand.line?, Errand.play, aloneAfter, linesOf,
        Interpreter.playAfter]
  · rw [if_neg hc]
    simp [Ne.symm hc, aloneAfter, linesOf, Interpreter.playAfter]

/-- As long as there are numbers, every visitor finds what it would have come to alone. -/
theorem serves_after (hnames : (settings.seedAgents.map Text.lower).Nodup)
    (hs : settings.IsWhole) (site : Site) (visits : List (Visit Visitor))
    (hroom :
      isWord (({ site } : Scene Visitor).after settings visits).site.sessions.nextId = true) :
    (({ site } : Scene Visitor).after settings visits).Serves settings
      fun c => aloneAfter settings c visits := by
  induction visits using List.reverseRecOn with
  | nil => exact serves_fresh settings site
  | append_singleton visits v ih =>
    rw [after_append_singleton] at hroom ⊢
    have hearlier := isWord_of_le (advances_visit settings _ v).1 hroom
    have hserves := ((ih hearlier).visit hnames hs hearlier v).2
    simp only [aloneAfter_append_singleton]
    exact hserves

/-- The numbers last for as many visits as there are numbers. -/
theorem nextId_after_le (settings : Settings) (s : Scene Visitor) (visits : List (Visit Visitor)) :
    (s.after settings visits).site.sessions.nextId ≤ s.site.sessions.nextId + visits.length := by
  induction visits using List.reverseRecOn with
  | nil => exact Nat.le_refl _
  | append_singleton visits v ih =>
    rw [after_append_singleton, List.length_append, List.length_singleton]
    have hvisit := (advances_visit settings (s.after settings visits) v).2
    omega

/-- Whatever visits came before, and whoever made them: a visitor sees what it would see alone, and
the sessions of others are as before. There must be a number left for a new session, and the
configured agents must not share a name. -/
theorem shows_page_alone (settings : Settings) (site : Site) (before : List (Visit Visitor))
    (v : Visit Visitor) (hnames : (settings.seedAgents.map Text.lower).Nodup)
    (hs : settings.IsWhole)
    (hroom :
      isWord (({ site } : Scene Visitor).after settings before).site.sessions.nextId = true) :
    let s := ({ site } : Scene Visitor).after settings before
    (s.visit settings v).1.Shows
        (v.errand.page settings (aloneAfter settings v.visitor before)
          (s.cookies v.visitor).isNone) ∧
      ∀ c, c ≠ v.visitor → (s.visit settings v).2.session? c = s.session? c := by
  intro s
  have hserves := serves_after hnames hs site before hroom
  exact ⟨(hserves.visit hnames hs hroom v).1,
    fun c hc => hserves.session?_visit hnames hs hroom v hc⟩

/-- Two visitors who come in turns. -/
def twoVisitors : List (Visit Bool) :=
  [⟨true, .form⟩, ⟨false, .line "add agent Dan"⟩, ⟨true, .line "add agent Carol"⟩,
    ⟨false, .line "add agent Eve"⟩]

/-- One visitor's agents have other identifiers than they would have alone, and what it sees
is the same. -/
theorem shows_page_alone_twoVisitors :
    let s := ({} : Scene Bool).after {} twoVisitors
    let v : Visit Bool := ⟨false, .line "Dan asserts A is red"⟩
    (s.session? false).map (·.game.present) = some [⟨3⟩, ⟨4⟩, ⟨5⟩, ⟨7⟩] ∧
      (aloneAfter {} false twoVisitors).game.present = [⟨1⟩, ⟨2⟩, ⟨3⟩, ⟨4⟩] ∧
      (s.visit {} v).1.Shows
        (v.errand.page {} (aloneAfter {} v.visitor twoVisitors) (s.cookies v.visitor).isNone) ∧
      ∀ c, c ≠ v.visitor → (s.visit {} v).2.session? c = s.session? c :=
  ⟨by decide +kernel, by decide +kernel,
    shows_page_alone {} {} twoVisitors ⟨false, .line "Dan asserts A is red"⟩ (by decide +kernel)
      (by decide +kernel) (isWord_of_le (nextId_after_le {} {} twoVisitors) (by decide +kernel))⟩

end Discourse.Web.Scene
