import Discourse.Proofs.Web.Updates

/-!
# No update is lost

Requests that are handled side by side leave in every session what its commands lead to from a new
game, each command once, in the order in which the lock was given. Showing a page changes no session
that is there, and a transcript that is shown was stored when it was looked up.

* `Traffic.Shows`: the page that a request is about to show.
* `Traffic.shows_step`: it stays so while the request goes on.
* `Traffic.Lossless`, `Traffic.OnlyLooks`: what commands and pages come to.
* `Traffic.no_update_is_lost`: the traffic after any steps.
* `Traffic.stored_mirrors`: what is stored is what an interpreter alone comes to.
-/

namespace Discourse.Web.Traffic

variable {Key : Type} [DecidableEq Key] {settings : Settings} {asks : Key → Arrival}
  {s : Traffic Key} {j k : Key} {o : Opened} {id : Int}

/-! ## What a page changes -/

theorem sessions_begin (settings : Settings) (s : Traffic Key) (k : Key) :
    (s.begin settings k).site.sessions = s.site.sessions := by
  unfold begin
  split <;> rfl

theorem sessions_look (settings : Settings) (s : Traffic Key) (k : Key) (cookie : Option String) :
    (s.look settings k cookie).site.sessions = s.site.sessions := by
  unfold look
  split
  · rfl
  · exact sessions_begin settings s k
  · split
    · rfl
    · exact sessions_begin settings s k
    · rfl

theorem sessions_create (s : Traffic Key) (k : Key) (g : Game) :
    (s.create k g).site.sessions = s.site.sessions := by
  unfold create
  split <;> rfl

/-- A session that is there is not changed by showing a page. -/
theorem Kept.get?_step_of_page {query : String} {stored : StoredGame}
    (h : s.Kept settings asks) (hpage : (asks k).purpose = .page query)
    (hget : s.site.sessions.get? id = some stored) :
    (s.step settings asks k).site.sessions.get? id = some stored := by
  have hnoLine : (asks k).purpose.line? = none := by rw [hpage]; rfl
  have hbacks := h.backs k
  unfold Traffic.step
  cases hp : s.progress k with
  | waiting =>
    rw [hpage]
    dsimp only
    rwa [sessions_look]
  | admitted => rwa [sessions_look]
  | begun game =>
    dsimp only
    split
    · rwa [sessions_create]
    · exact hget
  | opened o =>
    rw [hpage]
    change (s.view k).get? id = some stored
    cases hdraft : s.draftOf k with
    | none => rwa [view_of_none hdraft]
    | some w =>
      obtain ⟨o', -, hdrafts⟩ := h.draft hdraft
      have hne : id ≠ o'.id := by
        rintro rfl
        cases (hdrafts.fresh hnoLine).symm.trans hget
      rw [view_of_some hdraft]
      exact (hdrafts.others hne).trans hget
  | executed o answer game =>
    rw [hp] at hbacks
    obtain ⟨-, line, hline, -⟩ := hbacks
    cases hnoLine.symm.trans hline
  | saved o page =>
    rw [hp] at hbacks
    obtain ⟨-, _, line, -, hline, -⟩ := hbacks
    cases hnoLine.symm.trans hline
  | committed | broken | answered | failed => exact hget

/-! ## What a page shows -/

/-- A page is shown of a game that has been seen in its session. -/
def Shows (seen : Int → Game → Prop) (s : Traffic Key) (k : Key) (query : String) :
    Progress → Prop
  | .opened o => (s.draftOf k).isSome = true ∨ seen o.id o.game
  | .committed o page | .answered o page => seen o.id o.game ∧ page = o.page query
  | _ => True

variable {seen : Int → Game → Prop} {query : String}

theorem Shows.of_draftOf {s' : Traffic Key} {p : Progress} (h : s.Shows seen k query p)
    (hdraft : s'.draftOf k = s.draftOf k) : s'.Shows seen k query p := by
  cases p with
  | opened o =>
    rw [Shows, hdraft]
    exact h
  | committed | answered => exact h
  | _ => trivial

theorem shows_begin (settings : Settings) (s : Traffic Key) (k : Key) :
    (s.begin settings k).Shows seen k query ((s.begin settings k).progress k) := by
  unfold begin
  split
  · rw [progress_abort]
    trivial
  · rw [progress_move]
    trivial

theorem shows_look (h : s.Kept settings asks) (hsession : (s.progress k).session? = none)
    (hseen : ∀ {id stored}, s.site.sessions.get? id = some stored → seen id stored.game)
    (cookie : Option String) :
    (s.look settings k cookie).Shows seen k query ((s.look settings k cookie).progress k) := by
  unfold look
  split
  · rw [progress_abort]
    trivial
  · exact shows_begin settings s k
  · split
    · rw [progress_abort]
      trivial
    · exact shows_begin settings s k
    next game hload =>
      rw [view_of_none (h.draftOf_eq_none hsession)] at hload
      obtain ⟨stored, hget, rfl⟩ := Sessions.exists_of_load? hload
      rw [progress_move]
      exact Or.inr (hseen hget)

theorem shows_create (s : Traffic Key) (k : Key) (g : Game) :
    (s.create k g).Shows seen k query ((s.create k g).progress k) := by
  unfold create
  split
  · rw [progress_abort]
    trivial
  next n w _ =>
    rw [progress_write]
    exact Or.inl (by rw [draftOf_write]; rfl)

theorem shows_save (s : Traffic Key) (k : Key) (o : Opened) (answer : Text) (g : Game) :
    (s.save k o answer g).Shows seen k query ((s.save k o answer g).progress k) := by
  unfold save
  split
  · rw [progress_abort]
    trivial
  · rw [progress_write]
    trivial

/-- A page that is committed shows what was seen before, or what is committed with it. -/
theorem shows_commit (h : s.Kept settings asks) (hp : s.progress k = .opened o)
    (hshows : s.Shows seen k query (.opened o))
    (hseen : ∀ {id stored}, (s.commit k o (o.page query)).site.sessions.get? id = some stored →
      seen id stored.game) :
    (s.commit k o (o.page query)).Shows seen k query
      ((s.commit k o (o.page query)).progress k) := by
  rw [progress_commit]
  refine ⟨?_, rfl⟩
  rcases hshows with hdrafted | hbefore
  · have hbacks := h.backs k
    rw [hp] at hbacks
    obtain ⟨stored, hget, hready⟩ := hbacks
    rw [← (hready (Or.inl hdrafted)).1]
    exact hseen hget
  · exact hbefore

theorem shows_step (h : s.Kept settings asks) (hpage : (asks k).purpose = .page query)
    (hshows : s.Shows seen k query (s.progress k))
    (hseen : ∀ {id stored}, s.site.sessions.get? id = some stored → seen id stored.game)
    (hseen' : ∀ {id stored}, (s.step settings asks k).site.sessions.get? id = some stored →
      seen id stored.game) :
    (s.step settings asks k).Shows seen k query ((s.step settings asks k).progress k) := by
  have hbacks := h.backs k
  unfold Traffic.step at hseen' ⊢
  cases hp : s.progress k with
  | waiting =>
    rw [hpage]
    exact shows_look h (by rw [hp]; rfl) hseen _
  | admitted => exact shows_look h (by rw [hp]; rfl) hseen _
  | begun game =>
    cases hfree : s.isFree k with
    | true => exact shows_create s k game
    | false => exact hshows
  | opened o =>
    rw [hp] at hshows hseen'
    rw [hpage] at hseen' ⊢
    exact shows_commit h hp hshows hseen'
  | executed o answer game =>
    cases hfree : s.isFree k with
    | true => exact shows_save s k o answer game
    | false => exact hshows
  | saved o page =>
    rw [hp] at hbacks
    obtain ⟨-, _, line, -, hline, -⟩ := hbacks
    rw [hpage] at hline
    cases hline
  | committed o page =>
    rw [hp] at hshows
    dsimp only
    rw [progress_leave]
    exact hshows
  | broken =>
    dsimp only
    rw [progress_leave]
    trivial
  | answered | failed => exact hshows

/-! ## Any steps -/

/-- The game was stored in the session at some time. -/
def WasStored (settings : Settings) (asks : Key → Arrival) (ids : IdSupply) (schedule : List Key)
    (id : Int) (g : Game) : Prop :=
  ∃ before stored, before <+: schedule ∧
    (after settings asks { site := { ids } } before).site.sessions.get? id = some stored ∧
    stored.game = g

theorem shows_after (settings : Settings) (ids : IdSupply) {schedule : List Key}
    (hpage : (asks k).purpose = .page query) (before : List Key) (hbefore : before <+: schedule) :
    (after settings asks { site := { ids } } before).Shows
      (WasStored settings asks ids schedule) k query
      ((after settings asks { site := { ids } } before).progress k) := by
  induction before using List.reverseRecOn with
  | nil => trivial
  | append_singleton before j ih =>
    have hearlier : before <+: schedule := (List.prefix_append before [j]).trans hbefore
    obtain ⟨hl, hk⟩ := locked_and_kept_after settings asks ids before
    rw [after_append_singleton]
    by_cases hj : k = j
    · subst hj
      refine shows_step hk hpage (ih hearlier) (fun hget => ⟨before, _, hearlier, hget, rfl⟩)
        fun hget => ⟨before ++ [k], _, hbefore, ?_, rfl⟩
      rwa [after_append_singleton]
    · have hframe := frame_step settings asks (after settings asks { site := { ids } } before) j
      rw [hframe.others hj]
      exact (ih hearlier).of_draftOf (hframe.drafts hj)

/-- What is stored in a session is what the lines of its commands lead to from a new game, each
command once, in the order in which the lock was given. -/
structure Lossless (settings : Settings) (asks : Key → Arrival) (s : Traffic Key) : Prop where
  stored : ∀ {id stored}, s.site.sessions.get? id = some stored →
    Play.Follows settings (s.linesOf asks id) ⟨stored.game, s.site.ids⟩
  once : s.admitted.Nodup
  admitted : ∀ {k line id}, (asks k).purpose.line? = some line →
    (s.progress k).done? = some id → k ∈ s.admitted
  there : ∀ {k id}, (s.progress k).done? = some id → (s.site.sessions.get? id).isSome = true

/-- Showing a page changes no session that is there, and a transcript that is shown was stored. -/
structure OnlyLooks (settings : Settings) (asks : Key → Arrival) (ids : IdSupply)
    (schedule : List Key) (k : Key) (query : String) : Prop where
  keeps : ∀ {id stored},
    (after settings asks { site := { ids } } schedule).site.sessions.get? id = some stored →
    ((after settings asks { site := { ids } } schedule).step settings asks k).site.sessions.get?
      id = some stored
  shown : ∀ {o page},
    (after settings asks { site := { ids } } schedule).progress k = .answered o page →
    wantsTranscript query = true → ∃ before stored, before <+: schedule ∧
      (after settings asks { site := { ids } } before).site.sessions.get? o.id = some stored ∧
      page = Page.transcript stored.transcript

/-- However requests take turns at a site where nothing is stored yet, no update is lost, and pages
only look at what is stored. -/
theorem no_update_is_lost (settings : Settings) (asks : Key → Arrival) (ids : IdSupply)
    (schedule : List Key) :
    (after settings asks { site := { ids } } schedule).Lossless settings asks ∧
      ∀ k query, (asks k).purpose = .page query →
        OnlyLooks settings asks ids schedule k query := by
  obtain ⟨hl, hk⟩ := locked_and_kept_after settings asks ids schedule
  refine ⟨⟨hk.stored, hl.nodup, fun hline hdone => ?_, hk.done⟩, fun k query hpage => ⟨?_, ?_⟩⟩
  · refine hl.passed hline fun hwaiting => ?_
    rw [hwaiting] at hdone
    cases hdone
  · exact hk.get?_step_of_page hpage
  · intro o page hp hwants
    have hshows := shows_after settings ids hpage schedule (List.prefix_refl schedule)
    rw [hp] at hshows
    obtain ⟨⟨before, stored, hbefore, hget, hgame⟩, rfl⟩ := hshows
    refine ⟨before, stored, hbefore, hget, ?_⟩
    rw [Opened.page, if_pos hwants, ← hgame]
    rfl

/-- Three commands and two pages. All but the last one and the one that opens the session have its
cookie. -/
def rush : Nat → Arrival
  | 0 => { purpose := .command "add agent Carol" }
  | 1 => { cookie := some "1", purpose := .command "add agent Dan" }
  | 2 => { cookie := some "1", purpose := .command "add agent Eve" }
  | 3 => { cookie := some "1", purpose := .page "transcript" }
  | _ => { purpose := .page "" }

/-- While the second command goes on, the third one waits for the lock, the transcript is looked up,
and somebody is given a session of its own. -/
def turns : List Nat :=
  [0, 0, 0, 0, 0, 0, 0, 1, 2, 3, 1, 4, 4, 1, 1, 4, 1, 3, 1, 2, 1, 2, 2, 2, 2, 2, 2, 3, 4]

/-- Nobody is lost, and the transcript is the one of the first command. -/
theorem no_update_is_lost_rush :
    let s := after {} rush { site := { ids := {} } } turns
    s.linesOf rush 1 = ["add agent Carol", "add agent Dan", "add agent Eve"] ∧
      (s.site.sessions.get? 1).map (fun g => g.game.agents.map Agent.name) =
        some (["Ann", "Bob", "Carol", "Dan", "Eve"] : List Text) ∧
      (s.site.sessions.get? 2).map (fun g => g.game.agents.map Agent.name) =
        some (["Ann", "Bob"] : List Text) ∧
      s.Lossless {} rush ∧ OnlyLooks {} rush {} turns 3 "transcript" :=
  ⟨by decide +kernel, by decide +kernel, by decide +kernel,
    (no_update_is_lost {} rush {} turns).1, (no_update_is_lost {} rush {} turns).2 3 _ rfl⟩

-- Two commands that are let in at the same time: one of the newcomers is lost.
example :
    let first := after {} rush {} (List.replicate 7 0)
    let s := after {} rush { site := first.site, progress := fun _ => .admitted }
      [1, 2, 1, 2, 1, 1, 2, 2]
    (s.site.sessions.get? 1).map (fun g => g.game.agents.map Agent.name) =
      some (["Ann", "Bob", "Carol", "Eve"] : List Text) := by
  decide +kernel

/-- What is stored in a session is what an interpreter comes to alone with its lines, up to
identifiers. -/
theorem stored_mirrors (hs : settings.IsWhole) (asks : Key → Arrival) (ids : IdSupply)
    (schedule : List Key) {stored : StoredGame}
    (hget : (after settings asks { site := { ids } } schedule).site.sessions.get? id =
      some stored) :
    (({ settings } : Interpreter).playAfter (opening settings)
      ((after settings asks { site := { ids } } schedule).linesOf asks id)).Mirrors
      ⟨stored.game, (after settings asks { site := { ids } } schedule).site.ids⟩ :=
  ((locked_and_kept_after settings asks ids schedule).2.stored hget).mirrors hs

end Discourse.Web.Traffic
