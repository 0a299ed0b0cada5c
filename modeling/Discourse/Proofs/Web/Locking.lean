import Discourse.Proofs.Interpreter.Line
import Discourse.Web.Traffic
import Mathlib.Data.List.Nodup

/-!
# The lock

A step of one request leaves the others where they are. A command that has begun and is not yet
answered has the lock, so there is one such command at most, and the lock is given to each command
once.

* `Traffic.Frame`, `Traffic.frame_step`: what a step leaves.
* `Traffic.Advances`: a step that has nothing to do with the lock.
* `Traffic.Locked`: who has the lock, and to whom it was given.
* `Traffic.Locked.step`: it is so after one more step.
-/

namespace Discourse.Web.Traffic

variable {Key : Type} {asks : Key → Arrival}

/-! ## Who has the lock -/

/-- A command that has begun and is not yet answered has the lock, and the lock is given to each
command once. -/
structure Locked (asks : Key → Arrival) (s : Traffic Key) : Prop where
  holder : ∀ {k line}, (asks k).purpose.line? = some line → (s.progress k).isInside = true →
    s.lock = some k
  last : ∀ {k}, s.lock = some k → ∃ earlier, s.admitted = earlier ++ [k]
  begun : ∀ {k}, k ∈ s.admitted → s.progress k ≠ .waiting
  passed : ∀ {k line}, (asks k).purpose.line? = some line → s.progress k ≠ .waiting →
    k ∈ s.admitted
  nodup : s.admitted.Nodup

theorem locked_empty (site : Site) : Locked asks ({ site } : Traffic Key) where
  holder _ hinside := nomatch hinside
  last h := nomatch h
  begun h := nomatch h
  passed _ h := absurd rfl h
  nodup := List.nodup_nil

variable [DecidableEq Key] {settings : Settings} {s s' : Traffic Key} {k : Key} {p : Progress}

/-! ## What a step leaves -/

/-- Other requests are as far as they were, and what they have stored is as before. Identifiers may
have been drawn. -/
structure Frame (s : Traffic Key) (k : Key) (s' : Traffic Key) : Prop where
  others : ∀ {j}, j ≠ k → s'.progress j = s.progress j
  drafts : ∀ {j}, j ≠ k → s'.draftOf j = s.draftOf j
  drawn : s.site.ids.drawn ≤ s'.site.ids.drawn

theorem frame_self (s : Traffic Key) (k : Key) : s.Frame k s :=
  ⟨fun _ => rfl, fun _ => rfl, Nat.le_refl _⟩

theorem frame_grant (s : Traffic Key) (k : Key) : s.Frame k (s.grant k) :=
  ⟨fun h => progress_move_of_ne _ _ h, fun _ => rfl, Nat.le_refl _⟩

theorem frame_leave (s : Traffic Key) (k : Key) (p : Progress) : s.Frame k (s.leave k p) :=
  ⟨fun h => progress_move_of_ne _ _ h, fun _ => rfl, Nat.le_refl _⟩

/-- The request has come further, and the lock is as before. -/
structure Advances (s : Traffic Key) (k : Key) (s' : Traffic Key) : Prop extends Frame s k s' where
  lock : s'.lock = s.lock
  admitted : s'.admitted = s.admitted
  begun : s'.progress k ≠ .waiting

theorem advances_move {ids : IdSupply} (hids : s.site.ids.drawn ≤ ids.drawn) (hp : p ≠ .waiting) :
    s.Advances k ((s.withIds ids).move k p) where
  others h := progress_move_of_ne _ p h
  drafts _ := rfl
  drawn := hids
  lock := rfl
  admitted := rfl
  begun := by rwa [progress_move]

theorem advances_write {sessions : Sessions} (hfree : s.isFree k = true) (hp : p ≠ .waiting) :
    s.Advances k (s.write k sessions p) where
  others h := progress_move_of_ne _ p h
  drafts {j} h := by
    rw [draftOf_of_isFree hfree h]
    exact draftOf_of_isFree (k := k) (by simp [write, move, isFree]) h
  drawn := Nat.le_refl _
  lock := rfl
  admitted := rfl
  begun := by rwa [progress_write]

theorem advances_commit (s : Traffic Key) (k : Key) (o : Opened) (page : Text) :
    s.Advances k (s.commit k o page) where
  others h := progress_move_of_ne _ _ h
  drafts {j} h := (draftOf_of_filter rfl j).trans (if_neg h)
  drawn := Nat.le_refl _
  lock := rfl
  admitted := rfl
  begun := by
    rw [progress_commit]
    rintro ⟨⟩

theorem advances_abort {ids : IdSupply} (hids : s.site.ids.drawn ≤ ids.drawn) :
    s.Advances k ((s.withIds ids).abort k) where
  others h := progress_move_of_ne _ _ h
  drafts {j} h := (draftOf_of_filter (s := s) rfl j).trans (if_neg h)
  drawn := hids
  lock := rfl
  admitted := rfl
  begun := by
    rw [progress_abort]
    rintro ⟨⟩

theorem drawn_le_newGame (settings : Settings) (ids : IdSupply) :
    ids.drawn ≤ (Game.newGame settings ids).2.2.drawn :=
  Game.drawn_le_addAgents {} settings settings.seedAgents ids

theorem advances_begin (settings : Settings) (s : Traffic Key) (k : Key) :
    s.Advances k (s.begin settings k) := by
  have hdrawn := drawn_le_newGame settings s.site.ids
  unfold begin
  rcases hnew : Game.newGame settings s.site.ids with ⟨_ | _, game, ids⟩
  · rw [hnew] at hdrawn
    exact advances_abort hdrawn
  · rw [hnew] at hdrawn
    exact advances_move hdrawn (by rintro ⟨⟩)

theorem advances_look (settings : Settings) (s : Traffic Key) (k : Key)
    (cookie : Option String) : s.Advances k (s.look settings k cookie) := by
  unfold look
  split
  · exact advances_abort (Nat.le_refl _)
  · exact advances_begin settings s k
  · split
    · exact advances_abort (Nat.le_refl _)
    · exact advances_begin settings s k
    · exact advances_move (Nat.le_refl _) (by rintro ⟨⟩)

theorem advances_create (hfree : s.isFree k = true) (g : Game) : s.Advances k (s.create k g) := by
  unfold create
  split
  · exact advances_abort (Nat.le_refl _)
  · exact advances_write hfree (by rintro ⟨⟩)

theorem advances_execute (settings : Settings) (s : Traffic Key) (k : Key) (o : Opened)
    (line : String) : s.Advances k (s.execute settings k o line) := by
  have hdrawn := Interpreter.drawn_le_execute { settings } ⟨o.game, s.site.ids⟩ line
  unfold execute
  rcases hrun : ({ settings } : Interpreter).execute ⟨o.game, s.site.ids⟩ line with ⟨_ | _, play⟩
  · rw [hrun] at hdrawn
    exact advances_abort hdrawn
  · rw [hrun] at hdrawn
    exact advances_move hdrawn (by rintro ⟨⟩)

theorem advances_save (hfree : s.isFree k = true) (o : Opened) (answer : Text) (g : Game) :
    s.Advances k (s.save k o answer g) := by
  unfold save
  split
  · exact advances_abort (Nat.le_refl _)
  · exact advances_write hfree (by rintro ⟨⟩)

/-- Whatever step a request takes, the others are where they were. -/
theorem frame_step (settings : Settings) (asks : Key → Arrival) (s : Traffic Key) (k : Key) :
    s.Frame k (s.step settings asks k) := by
  unfold Traffic.step
  cases s.progress k with
  | waiting =>
    cases (asks k).purpose with
    | page query => exact (advances_look settings s k _).toFrame
    | command line =>
      cases s.lock with
      | none => exact frame_grant s k
      | some _ => exact frame_self s k
  | admitted => exact (advances_look settings s k _).toFrame
  | begun game =>
    cases hfree : s.isFree k with
    | true => exact (advances_create hfree game).toFrame
    | false => exact frame_self s k
  | opened o =>
    cases (asks k).purpose with
    | page query => exact (advances_commit s k o _).toFrame
    | command line => exact (advances_execute settings s k o line).toFrame
  | executed o answer game =>
    cases hfree : s.isFree k with
    | true => exact (advances_save hfree o answer game).toFrame
    | false => exact frame_self s k
  | saved o page => exact (advances_commit s k o page).toFrame
  | committed o page => exact frame_leave s k _
  | broken => exact frame_leave s k _
  | answered | failed => exact frame_self s k

/-! ## One step -/

theorem Locked.advances (h : s.Locked asks) (hs : s.Advances k s')
    (hinside : ∀ line, (asks k).purpose.line? = some line →
      (s.progress k).isInside = true) : s'.Locked asks where
  holder {j line} hline hin := by
    rw [hs.lock]
    by_cases hj : j = k
    · subst hj
      exact h.holder hline (hinside line hline)
    · rw [hs.others hj] at hin
      exact h.holder hline hin
  last hlock := by
    rw [hs.lock] at hlock
    rw [hs.admitted]
    exact h.last hlock
  begun {j} hj := by
    rw [hs.admitted] at hj
    by_cases hjk : j = k
    · subst hjk
      exact hs.begun
    · rw [hs.others hjk]
      exact h.begun hj
  passed {j line} hline hbegun := by
    rw [hs.admitted]
    by_cases hj : j = k
    · subst hj
      refine h.passed hline fun hwait => ?_
      have hin := hinside line hline
      rw [hwait] at hin
      cases hin
    · rw [hs.others hj] at hbegun
      exact h.passed hline hbegun
  nodup := by
    rw [hs.admitted]
    exact h.nodup

theorem Locked.grant (h : s.Locked asks) (hlock : s.lock = none) (hp : s.progress k = .waiting) :
    (s.grant k).Locked asks := by
  have hfresh : k ∉ s.admitted := fun hk => h.begun hk hp
  have hframe := frame_grant s k
  have hself : (s.grant k).progress k = .admitted := progress_grant s k
  constructor
  case holder =>
    intro j line hline hin
    by_cases hj : j = k
    · rw [hj]
      rfl
    · rw [hframe.others hj] at hin
      rw [h.holder hline hin] at hlock
      cases hlock
  case last =>
    rintro _ ⟨⟩
    exact ⟨s.admitted, rfl⟩
  case begun =>
    intro j hj
    rcases List.mem_append.mp hj with hj | hj
    · have hne : j ≠ k := fun hjk => hfresh (hjk ▸ hj)
      rw [hframe.others hne]
      exact h.begun hj
    · rw [List.mem_singleton.mp hj, hself]
      rintro ⟨⟩
  case passed =>
    intro j line hline hbegun
    by_cases hj : j = k
    · rw [hj]
      exact List.mem_append_right _ List.mem_cons_self
    · rw [hframe.others hj] at hbegun
      exact List.mem_append_left _ (h.passed hline hbegun)
  case nodup =>
    have hnodup := h.nodup.concat hfresh
    rwa [List.concat_eq_append] at hnodup

theorem Locked.leave (h : s.Locked asks) (hbegun : s.progress k ≠ .waiting)
    (hp : p ≠ .waiting) (hout : p.isInside = false) : (s.leave k p).Locked asks := by
  have hframe := frame_leave s k p
  have hself : (s.leave k p).progress k = p := progress_leave s k p
  constructor
  case holder =>
    intro j line hline hin
    by_cases hj : j = k
    · rw [hj, hself, hout] at hin
      cases hin
    · rw [hframe.others hj] at hin
      exact Option.filter_eq_some_iff.mpr ⟨h.holder hline hin, by simpa using hj⟩
  case last =>
    intro j hj
    exact h.last (Option.filter_eq_some_iff.mp hj).1
  case begun =>
    intro j hj
    by_cases hjk : j = k
    · rwa [hjk, hself]
    · rw [hframe.others hjk]
      exact h.begun hj
  case passed =>
    intro j line hline hj
    by_cases hjk : j = k
    · subst hjk
      exact h.passed hline hbegun
    · rw [hframe.others hjk] at hj
      exact h.passed hline hj
  case nodup => exact h.nodup

theorem Locked.step (h : s.Locked asks) (k : Key) : (s.step settings asks k).Locked asks := by
  unfold Traffic.step
  cases hp : s.progress k with
  | waiting =>
    cases hpurpose : (asks k).purpose with
    | page query =>
      refine h.advances (advances_look settings s k _) fun line hline => ?_
      rw [hpurpose] at hline
      cases hline
    | command line =>
      cases hlock : s.lock with
      | none => exact h.grant hlock hp
      | some _ => exact h
  | admitted => exact h.advances (advances_look settings s k _) fun _ _ => by rw [hp]; rfl
  | begun game =>
    cases hfree : s.isFree k with
    | true => exact h.advances (advances_create hfree game) fun _ _ => by rw [hp]; rfl
    | false => exact h
  | opened o =>
    cases (asks k).purpose with
    | page query => exact h.advances (advances_commit s k o _) fun _ _ => by rw [hp]; rfl
    | command line =>
      exact h.advances (advances_execute settings s k o line) fun _ _ => by rw [hp]; rfl
  | executed o answer game =>
    cases hfree : s.isFree k with
    | true => exact h.advances (advances_save hfree o answer game) fun _ _ => by rw [hp]; rfl
    | false => exact h
  | saved o page => exact h.advances (advances_commit s k o page) fun _ _ => by rw [hp]; rfl
  | committed o page => exact h.leave (by rw [hp]; rintro ⟨⟩) (by rintro ⟨⟩) rfl
  | broken => exact h.leave (by rw [hp]; rintro ⟨⟩) (by rintro ⟨⟩) rfl
  | answered | failed => exact h

end Discourse.Web.Traffic
