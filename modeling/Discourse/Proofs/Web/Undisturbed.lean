import Discourse.Web.Traffic

/-!
# A request alone

A request that goes on without others in between comes to the response, and leaves the site, to
which handling it in one go comes.

* `respondAtRoot_eq_handle`: what is handled in one go.
* `Traffic.Ends`: what so many steps of one request come to.
* `Traffic.ends_handle`: any request.
-/

namespace Discourse.Web

/-- A request that asks something of the page is handled in one go. -/
theorem respondAtRoot_eq_handle (settings : Settings) (site : Site) {r : Request} {a : Arrival}
    (h : r.arrival? = some a) : respondAtRoot settings site r = a.handle settings site := by
  unfold Request.arrival? at h
  unfold respondAtRoot
  cases hmethod : r.method with
  | get =>
    rw [hmethod] at h
    cases h
    rfl
  | post =>
    rw [hmethod] at h
    obtain ⟨line, hline, rfl⟩ := Option.map_eq_some_iff.mp h
    simp only [hline]
    rfl
  | other =>
    rw [hmethod] at h
    cases h

namespace Traffic

variable {Key : Type} [DecidableEq Key] {settings : Settings} {asks : Key → Arrival}
  {s : Traffic Key} {k : Key} {n : Nat} {result : Response × Site} {o : Opened}

/-- After so many steps of the request there is a response, and nothing is left of the request but
the site. -/
structure Ends (settings : Settings) (asks : Key → Arrival) (s : Traffic Key) (k : Key) (n : Nat)
    (result : Response × Site) : Prop where
  response : ((s.after settings asks (List.replicate n k)).progress k).response? = some result.1
  site : (s.after settings asks (List.replicate n k)).site = result.2
  lock : (s.after settings asks (List.replicate n k)).lock = none
  draft : (s.after settings asks (List.replicate n k)).draft = none

/-- Nobody else has the lock or has stored anything. -/
structure Undisturbed (s : Traffic Key) (k : Key) : Prop where
  lock : ∀ j ∈ s.lock, j = k
  draft : ∀ d ∈ s.draft, d.1 = k

theorem Undisturbed.isFree (h : s.Undisturbed k) : s.isFree k = true := by
  rw [Traffic.isFree, Option.all_eq_true]
  exact fun d hd => decide_eq_true (h.draft d hd)

theorem Undisturbed.filter_lock (h : s.Undisturbed k) : s.lock.filter (· ≠ k) = none := by
  rw [Option.filter_eq_none_iff]
  simpa using h.lock

theorem Undisturbed.filter_draft (h : s.Undisturbed k) :
    (s.draft.filter fun d => d.1 ≠ k) = none := by
  rw [Option.filter_eq_none_iff]
  simpa using h.draft

/-! ## From the end -/

theorem ends_of_step (h : (s.step settings asks k).Ends settings asks k n result) :
    s.Ends settings asks k (n + 1) result :=
  ⟨h.response, h.site, h.lock, h.draft⟩

theorem step_of_response {r : Response} (h : (s.progress k).response? = some r) :
    s.step settings asks k = s := by
  unfold step
  cases hp : s.progress k with
  | answered | failed => rfl
  | _ =>
    rw [hp] at h
    cases h

/-- Nothing more happens once there is a response. -/
theorem Ends.more (h : s.Ends settings asks k n result) (m : Nat) :
    s.Ends settings asks k (n + m) result := by
  induction m with
  | zero => exact h
  | succ m ih =>
    have hlast : s.after settings asks (List.replicate (n + (m + 1)) k) =
        s.after settings asks (List.replicate (n + m) k) := by
      rw [← Nat.add_assoc, List.replicate_succ', after, List.foldl_append]
      exact step_of_response ih.response
    constructor <;> rw [hlast]
    · exact ih.response
    · exact ih.site
    · exact ih.lock
    · exact ih.draft

theorem ends_committed {page : Text} (h : s.Undisturbed k) (hdraft : s.draft = none)
    (hp : s.progress k = .committed o page) :
    s.Ends settings asks k 1 (respondWith o page, s.site) := by
  have hstep : s.after settings asks (List.replicate 1 k) = s.leave k (.answered o page) := by
    simp only [List.replicate_one, after, List.foldl_cons, List.foldl_nil, step, hp]
  constructor <;> rw [hstep]
  · rw [progress_leave]
    rfl
  · rfl
  · exact h.filter_lock
  · exact hdraft

theorem ends_broken (h : s.Undisturbed k) (hdraft : s.draft = none)
    (hp : s.progress k = .broken) : s.Ends settings asks k 1 (Web.failed, s.site) := by
  have hstep : s.after settings asks (List.replicate 1 k) = s.leave k .failed := by
    simp only [List.replicate_one, after, List.foldl_cons, List.foldl_nil, step, hp]
  constructor <;> rw [hstep]
  · rw [progress_leave]
    rfl
  · rfl
  · exact h.filter_lock
  · exact hdraft

theorem ends_abort {t : Traffic Key} {site : Site} (h : t.Undisturbed k) (hsite : t.site = site)
    (hstep : s.step settings asks k = t.abort k) :
    s.Ends settings asks k 2 (Web.failed, site) := by
  have hbroken : (t.abort k).Ends settings asks k 1 (Web.failed, t.site) :=
    ends_broken ⟨h.lock, by rw [abort, move, h.filter_draft]; rintro _ ⟨⟩⟩ h.filter_draft
      (progress_abort t k)
  rw [← hsite]
  exact ends_of_step (by rwa [hstep])

theorem ends_commit {page : Text} {site : Site} (h : s.Undisturbed k)
    (hsite : ⟨s.view k, s.site.ids⟩ = site)
    (hstep : s.step settings asks k = s.commit k o page) :
    s.Ends settings asks k 2 (respondWith o page, site) := by
  have hcommitted : (s.commit k o page).Ends settings asks k 1
      (respondWith o page, ⟨s.view k, s.site.ids⟩) :=
    ends_committed ⟨h.lock, by rw [commit, move, h.filter_draft]; rintro _ ⟨⟩⟩ h.filter_draft
      (progress_commit s k o page)
  rw [← hsite]
  exact ends_of_step (by rwa [hstep])

theorem undisturbed_write (h : s.Undisturbed k) (sessions : Sessions) (p : Progress) :
    (s.write k sessions p).Undisturbed k := by
  refine ⟨h.lock, ?_⟩
  rintro _ ⟨⟩
  rfl

theorem ends_executed (settings : Settings) (asks : Key → Arrival) {answer : Text} {g : Game}
    (h : s.Undisturbed k) (hp : s.progress k = .executed o answer g) :
    s.Ends settings asks k 3
      (match (s.view k).save? o.id g with
        | .error _ => (Web.failed, s.site)
        | .ok saved =>
          (respondWith o (Page.answer answer), ⟨saved.getD (s.view k), s.site.ids⟩)) := by
  have hstep : s.step settings asks k = s.save k o answer g := by
    simp only [step, hp, h.isFree, if_true]
  unfold save at hstep
  cases hsaved : (s.view k).save? o.id g with
  | error e =>
    rw [hsaved] at hstep
    exact (ends_abort h rfl hstep).more 1
  | ok saved =>
    rw [hsaved] at hstep
    refine ends_of_step ?_
    rw [hstep]
    exact ends_commit (undisturbed_write h _ _) (by rw [view_write]; rfl) (by simp [step, write])

/-! ## With a session -/

/-- The request has the session that opening one at the site would give it. -/
structure HasOpened (settings : Settings) (s : Traffic Key) (k : Key) (site site' : Site)
    (cookie : Option String) (o : Opened) : Prop where
  undisturbed : s.Undisturbed k
  progress : s.progress k = .opened o
  result : openSession settings site cookie = (.ok o, site')
  sessions : s.site.sessions = site.sessions
  view : s.view k = site'.sessions
  ids : s.site.ids = site'.ids

variable {site site' : Site} {cookie : Option String}

theorem HasOpened.ends_page {query : String} (h : s.HasOpened settings k site site' cookie o)
    (hpurpose : (asks k).purpose = .page query) :
    s.Ends settings asks k 2 (settle (showPage settings site cookie query)) := by
  have hstep : s.step settings asks k = s.commit k o (o.page query) := by
    simp only [step, h.progress, hpurpose]
  rw [showPage, h.result]
  exact ends_commit h.undisturbed (by rw [h.view, h.ids]) hstep

theorem HasOpened.ends_command {line : String} (h : s.HasOpened settings k site site' cookie o)
    (hpurpose : (asks k).purpose = .command line) :
    s.Ends settings asks k 4 (settle (runCommand settings site cookie line)) := by
  have hstep : s.step settings asks k = s.execute settings k o line := by
    simp only [step, h.progress, hpurpose]
  unfold execute at hstep
  rw [h.ids] at hstep
  unfold runCommand
  rw [h.result]
  dsimp only
  rcases hrun : ({ settings } : Interpreter).execute ⟨o.game, site'.ids⟩ line with ⟨result, play⟩
  rw [hrun] at hstep
  have hundisturbed : (s.withIds play.ids).Undisturbed k :=
    ⟨h.undisturbed.lock, h.undisturbed.draft⟩
  have hsite : (s.withIds play.ids).site = ⟨site.sessions, play.ids⟩ := by
    rw [withIds, h.sessions]
  cases result with
  | error e => exact (ends_abort hundisturbed hsite hstep).more 2
  | ok answer =>
    dsimp only at hstep
    have hmoved : ((s.withIds play.ids).move k (.executed o answer play.game)).Undisturbed k :=
      ⟨hundisturbed.lock, hundisturbed.draft⟩
    have hexecuted := ends_executed settings asks hmoved (progress_move _ k _)
    have hview : ((s.withIds play.ids).move k (.executed o answer play.game)).view k =
        site'.sessions := h.view
    have hids : ((s.withIds play.ids).move k (.executed o answer play.game)).site =
        ⟨site.sessions, play.ids⟩ := hsite
    refine ends_of_step ?_
    rw [hstep]
    rw [hview, hids] at hexecuted
    dsimp only
    cases hsaved : site'.sessions.save? o.id play.game with
    | error e =>
      rw [hsaved] at hexecuted
      exact hexecuted
    | ok saved =>
      rw [hsaved] at hexecuted
      exact hexecuted

/-! ## From the beginning -/

/-- What is said of a request once it has a session decides what it comes to: without one it
fails. -/
structure Decides (settings : Settings) (asks : Key → Arrival) (k : Key) (site : Site)
    (cookie : Option String) (result : Response × Site) : Prop where
  refused : ∀ e site', openSession settings site cookie = (.error e, site') →
    (Web.failed, site') = result
  opened : ∀ (t : Traffic Key) site' o, t.HasOpened settings k site site' cookie o →
    t.Ends settings asks k 4 result

theorem view_of_draft_eq_none (h : s.draft = none) : s.view k = s.site.sessions :=
  view_of_none (by rw [draftOf, h]; rfl)

theorem Decides.ends_begin (hd : Decides settings asks k s.site cookie result)
    (h : s.Undisturbed k) (hdraft : s.draft = none)
    (hopen : openSession settings s.site cookie = createSession settings s.site)
    (hstep : s.step settings asks k = s.begin settings k) : s.Ends settings asks k 6 result := by
  unfold begin at hstep
  unfold createSession at hopen
  rcases hnew : Game.newGame settings s.site.ids with ⟨answer, game, ids⟩
  rw [hnew] at hstep hopen
  have hundisturbed : (s.withIds ids).Undisturbed k := ⟨h.lock, h.draft⟩
  cases answer with
  | error e =>
    rw [← hd.refused _ _ hopen]
    exact (ends_abort hundisturbed rfl hstep).more 4
  | ok _ =>
    dsimp only at hstep hopen
    refine ends_of_step (n := 5) ?_
    rw [hstep]
    have hbegun : ((s.withIds ids).move k (.begun game)).Undisturbed k :=
      ⟨hundisturbed.lock, hundisturbed.draft⟩
    have hcreate : ((s.withIds ids).move k (.begun game)).step settings asks k =
        ((s.withIds ids).move k (.begun game)).create k game := by
      simp only [step, progress_move, hbegun.isFree, if_true]
    have hview : ((s.withIds ids).move k (.begun game)).view k = s.site.sessions :=
      view_of_draft_eq_none hdraft
    rw [create, hview] at hcreate
    rcases hstored : s.site.sessions.create game with e | ⟨id, sessions⟩
    · rw [hstored] at hcreate hopen
      rw [← hd.refused _ _ hopen]
      exact (ends_abort hbegun rfl hcreate).more 3
    · rw [hstored] at hcreate hopen
      refine ends_of_step ?_
      rw [hcreate]
      exact hd.opened _ _ _
        ⟨undisturbed_write hbegun _ _, progress_write _ k _ _, hopen, rfl, view_write _ _ _ _, rfl⟩

theorem Decides.ends_look (hd : Decides settings asks k s.site cookie result)
    (h : s.Undisturbed k) (hdraft : s.draft = none)
    (hstep : s.step settings asks k = s.look settings k cookie) :
    s.Ends settings asks k 6 result := by
  unfold look at hstep
  have hopen := openSession.eq_1 settings s.site cookie
  cases hnumber : sessionNumber? cookie with
  | error e =>
    rw [hnumber] at hstep hopen
    rw [← hd.refused _ _ hopen]
    exact (ends_abort h rfl hstep).more 4
  | ok number =>
    rw [hnumber] at hstep hopen
    cases number with
    | none => exact hd.ends_begin h hdraft hopen hstep
    | some id =>
      rw [view_of_draft_eq_none hdraft] at hstep
      dsimp only at hstep hopen
      cases hload : s.site.sessions.load? id with
      | error e =>
        rw [hload] at hstep hopen
        rw [← hd.refused _ _ hopen]
        exact (ends_abort h rfl hstep).more 4
      | ok found =>
        rw [hload] at hstep hopen
        cases found with
        | none => exact hd.ends_begin h hdraft hopen hstep
        | some game =>
          refine (ends_of_step ?_).more 1
          rw [hstep]
          exact hd.opened _ _ _ ⟨⟨h.lock, h.draft⟩, progress_move _ k _, hopen, rfl,
            view_of_draft_eq_none hdraft, rfl⟩

theorem decides_handle (settings : Settings) (asks : Key → Arrival) (k : Key) (site : Site) :
    Decides settings asks k site (asks k).cookie ((asks k).handle settings site) := by
  unfold Arrival.handle
  cases hpurpose : (asks k).purpose with
  | page query =>
    constructor
    · intro e site' hopen
      dsimp only
      rw [showPage, hopen]
      rfl
    · intro t site' o ht
      exact (ht.ends_page hpurpose).more 2
  | command line =>
    constructor
    · intro e site' hopen
      dsimp only
      rw [runCommand, hopen]
      rfl
    · intro t site' o ht
      exact ht.ends_command hpurpose

/-- A request that goes on alone comes to what handling it in one go comes to. -/
theorem ends_handle (hlock : s.lock = none) (hdraft : s.draft = none)
    (hp : s.progress k = .waiting) :
    s.Ends settings asks k 7 ((asks k).handle settings s.site) := by
  have h : s.Undisturbed k := by
    constructor
    · rw [hlock]
      rintro _ ⟨⟩
    · rw [hdraft]
      rintro _ ⟨⟩
  have hdecides := decides_handle settings asks k s.site
  cases hpurpose : (asks k).purpose with
  | page query =>
    have hstep : s.step settings asks k = s.look settings k (asks k).cookie := by
      simp only [step, hp, hpurpose]
    exact (hdecides.ends_look h hdraft hstep).more 1
  | command line =>
    have hgrant : s.step settings asks k = s.grant k := by
      simp only [step, hp, hpurpose, hlock, Option.isNone_none, if_true]
    have hstep : (s.grant k).step settings asks k =
        (s.grant k).look settings k (asks k).cookie := by
      simp [step, grant]
    have hadmitted : (s.grant k).Undisturbed k := ⟨by rintro _ ⟨⟩; rfl, h.draft⟩
    refine ends_of_step ?_
    rw [hgrant]
    exact Decides.ends_look (s := s.grant k) hdecides hadmitted hdraft hstep

end Traffic

end Discourse.Web
