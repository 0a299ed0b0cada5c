import Discourse.Proofs.Web.Following
import Discourse.Proofs.Web.Locking

/-!
# What is stored meanwhile

Whatever requests are on their way, and however they take turns: what is stored in a session follows
from the lines of its commands, in the order in which the lock was given. A command has the lock
from before it looks for its game until after the game it leaves is committed, so the game in its
hand is the one that is stored. A page that needs a new session stores one that no command has
seen.

* `Traffic.Backs`: what is known of a request that has come so far.
* `Traffic.Kept`: what is stored, and what is about to be.
* `Traffic.Kept.stays`, `Traffic.Kept.commit_draft`: steps that commit nothing, and one that does.
* `Traffic.Kept.step`, `Traffic.locked_and_kept_after`: one more step, and any steps.
-/

namespace Discourse.Web.Traffic

variable {Key : Type} [DecidableEq Key] {settings : Settings} {asks : Key → Arrival}
  {s s' : Traffic Key} {j k : Key} {p : Progress} {o : Opened} {w : Sessions} {id : Int}

/-! ## Drafts -/

theorem eq_of_draftOf {w' : Sessions} (h : s.draftOf j = some w) (h' : s.draftOf k = some w') :
    j = k := by
  rw [draftOf_eq_some_iff] at h h'
  exact congrArg Prod.fst (Option.some.inj (h.symm.trans h'))

/-! ## The lines of a session -/

theorem linesOf_of_frame (hs : s.Frame k s') (hadmitted : s'.admitted = s.admitted)
    (hdone : (s'.progress k).done? = (s.progress k).done? ∨ (asks k).purpose.line? = none)
    (id : Int) : s'.linesOf asks id = s.linesOf asks id := by
  rw [linesOf, linesOf, hadmitted]
  refine List.filterMap_congr fun j _ => ?_
  by_cases hj : j = k
  · subst hj
    rcases hdone with hdone | hpage
    · rw [hdone]
    · rw [hpage, ite_self, ite_self]
  · rw [hs.others hj]

theorem linesOf_grant (hp : s.progress k = .waiting) (id : Int) :
    (s.grant k).linesOf asks id = s.linesOf asks id := by
  have hself : ((s.grant k).progress k).done? = none := by
    rw [progress_grant]
    rfl
  have hadmitted : (s.grant k).admitted = s.admitted ++ [k] := rfl
  rw [linesOf, linesOf, hadmitted, List.filterMap_append]
  have hlast : [k].filterMap (fun j => if ((s.grant k).progress j).done? = some id then
      (asks j).purpose.line? else none) = [] := by
    simp
  rw [hlast, List.append_nil]
  refine List.filterMap_congr fun j _ => ?_
  by_cases hj : j = k
  · subst hj
    rw [hself, hp]
    rfl
  · rw [(frame_grant s k).others hj]

/-- The line of a command that commits comes last. -/
theorem linesOf_commit {line : String} {page : Text} (h : s.Locked asks)
    (hline : (asks k).purpose.line? = some line) (hlock : s.lock = some k)
    (hdone : (s.progress k).done? = none) (id : Int) :
    (s.commit k o page).linesOf asks id =
      s.linesOf asks id ++ if o.id = id then [line] else [] := by
  obtain ⟨earlier, hadmitted⟩ := h.last hlock
  have hfresh : k ∉ earlier := fun hk => by
    have hnodup := h.nodup
    rw [hadmitted] at hnodup
    exact (List.nodup_append.mp hnodup).2.2 k hk k List.mem_cons_self rfl
  have hcommitted : (s.commit k o page).admitted = earlier ++ [k] := hadmitted
  have hearlier : earlier.filterMap (fun j => if ((s.commit k o page).progress j).done? = some id
      then (asks j).purpose.line? else none) =
      earlier.filterMap fun j => if (s.progress j).done? = some id
        then (asks j).purpose.line? else none := by
    refine List.filterMap_congr fun j hj => ?_
    have hne : j ≠ k := fun hjk => hfresh (hjk ▸ hj)
    rw [(advances_commit s k o page).others hne]
  rw [linesOf, linesOf, hcommitted, hadmitted, List.filterMap_append, List.filterMap_append,
    hearlier]
  by_cases hid : o.id = id
  · simp [hdone, hline, hid]
  · simp [hdone, hid]

/-! ## What is known of a request -/

/-- What is known of a request that has come so far. -/
def Backs (settings : Settings) (asks : Key → Arrival) (s : Traffic Key) (k : Key) :
    Progress → Prop
  | .begun game => Play.Follows settings [] ⟨game, s.site.ids⟩
  | .opened o => ∃ stored, (s.view k).get? o.id = some stored ∧
      ((s.draftOf k).isSome = true ∨ (asks k).purpose.line?.isSome = true →
        stored.game = o.game ∧
          Play.Follows settings (s.linesOf asks o.id) ⟨o.game, s.site.ids⟩)
  | .executed o _ game => ((s.view k).get? o.id).isSome = true ∧
      ∃ line, (asks k).purpose.line? = some line ∧
        Play.Follows settings (s.linesOf asks o.id ++ [line]) ⟨game, s.site.ids⟩
  | .saved o _ => (s.draftOf k).isSome = true ∧
      ∃ stored line, (s.view k).get? o.id = some stored ∧
        (asks k).purpose.line? = some line ∧
        Play.Follows settings (s.linesOf asks o.id ++ [line]) ⟨stored.game, s.site.ids⟩
  | _ => True

/-- A draft differs from what is committed in one session only, and in a new one if a page is to be
shown. -/
structure Drafts (asks : Key → Arrival) (s : Traffic Key) (k : Key) (o : Opened) (w : Sessions) :
    Prop where
  others : ∀ {id}, id ≠ o.id → w.get? id = s.site.sessions.get? id
  fresh : (asks k).purpose.line? = none → s.site.sessions.get? o.id = none

/-- What is stored in a session follows from its lines, and so does what requests are about to
store. -/
structure Kept (settings : Settings) (asks : Key → Arrival) (s : Traffic Key) : Prop where
  stored : ∀ {id stored}, s.site.sessions.get? id = some stored →
    Play.Follows settings (s.linesOf asks id) ⟨stored.game, s.site.ids⟩
  done : ∀ {k id}, (s.progress k).done? = some id → (s.site.sessions.get? id).isSome = true
  backs : ∀ k, s.Backs settings asks k (s.progress k)
  draft : ∀ {k w}, s.draftOf k = some w →
    ∃ o, (s.progress k).session? = some o ∧ s.Drafts asks k o w

theorem kept_empty (ids : IdSupply) :
    ({ site := { ids } } : Traffic Key).Kept settings asks where
  stored h := nomatch h
  done h := nomatch h
  backs _ := trivial
  draft h := nomatch h

theorem Kept.draftOf_eq_none (h : s.Kept settings asks) (hp : (s.progress k).session? = none) :
    s.draftOf k = none := by
  cases hdraft : s.draftOf k with
  | none => rfl
  | some w =>
    obtain ⟨o, ho, -⟩ := h.draft hdraft
    cases hp.symm.trans ho

/-- The session that a request has in hand is there. -/
theorem Kept.isSome_get? (h : s.Kept settings asks) (ho : (s.progress k).session? = some o) :
    ((s.view k).get? o.id).isSome = true := by
  have hbacks := h.backs k
  cases hp : s.progress k with
  | opened o' =>
    rw [hp] at ho hbacks
    cases ho
    obtain ⟨stored, hget, -⟩ := hbacks
    exact Option.isSome_iff_exists.mpr ⟨stored, hget⟩
  | executed o' =>
    rw [hp] at ho hbacks
    cases ho
    exact hbacks.1
  | saved o' =>
    rw [hp] at ho hbacks
    cases ho
    obtain ⟨-, stored, -, hget, -⟩ := hbacks
    exact Option.isSome_iff_exists.mpr ⟨stored, hget⟩
  | _ =>
    rw [hp] at ho
    cases ho

/-- Of other sessions a request sees what is committed. -/
theorem Kept.get?_view_of_ne (h : s.Kept settings asks) (ho : (s.progress k).session? = some o)
    (hid : id ≠ o.id) : (s.view k).get? id = s.site.sessions.get? id := by
  cases hdraft : s.draftOf k with
  | none => rw [view_of_none hdraft]
  | some w =>
    obtain ⟨o', ho', hdrafts⟩ := h.draft hdraft
    cases ho.symm.trans ho'
    rw [view_of_some hdraft]
    exact hdrafts.others hid

/-- Nothing was carried out in a session that is not there. -/
theorem Kept.linesOf_eq_nil (h : s.Kept settings asks) (hid : s.site.sessions.get? id = none) :
    s.linesOf asks id = [] := by
  refine List.filterMap_eq_nil_iff.mpr fun j _ => if_neg fun hdone => ?_
  have hsome := h.done hdone
  rw [hid] at hsome
  cases hsome

/-! ## What others do -/

/-- What is known stays known while the session of the request is as it was. -/
theorem Backs.later (h : s.Backs settings asks j p)
    (hview : ∀ o, p.session? = some o → (s'.view j).get? o.id = (s.view j).get? o.id)
    (hlines : ∀ o, p.session? = some o → s'.linesOf asks o.id = s.linesOf asks o.id)
    (hdraft : s'.draftOf j = s.draftOf j) (hdrawn : s.site.ids.drawn ≤ s'.site.ids.drawn) :
    s'.Backs settings asks j p := by
  cases p with
  | begun game => exact Play.Follows.later h hdrawn
  | opened o =>
    obtain ⟨stored, hget, hgame⟩ := h
    refine ⟨stored, (hview o rfl).trans hget, fun hready => ?_⟩
    rw [hdraft] at hready
    rw [hlines o rfl]
    exact ⟨(hgame hready).1, .later (hgame hready).2 hdrawn⟩
  | executed o _ game =>
    obtain ⟨hget, line, hline, hfollows⟩ := h
    rw [Backs, hview o rfl, hlines o rfl]
    exact ⟨hget, line, hline, .later hfollows hdrawn⟩
  | saved o _ =>
    obtain ⟨hdrafted, stored, line, hget, hline, hfollows⟩ := h
    rw [Backs, hview o rfl, hlines o rfl, hdraft]
    exact ⟨hdrafted, stored, line, hget, hline, .later hfollows hdrawn⟩
  | _ => trivial

/-- Of a page for which nothing is stored, only the session has to stay. -/
theorem Backs.later_of_page (h : s.Backs settings asks j p)
    (hpage : (asks j).purpose.line? = none) (hdraft : s.draftOf j = none)
    (hdraft' : s'.draftOf j = none)
    (hget : ∀ id, (s.site.sessions.get? id).isSome = true →
      (s'.site.sessions.get? id).isSome = true)
    (hdrawn : s.site.ids.drawn ≤ s'.site.ids.drawn) : s'.Backs settings asks j p := by
  cases p with
  | begun game => exact Play.Follows.later h hdrawn
  | opened o =>
    obtain ⟨stored, hstored, -⟩ := h
    rw [view_of_none hdraft] at hstored
    obtain ⟨stored', hstored'⟩ := Option.isSome_iff_exists.mp (hget o.id (by rw [hstored]; rfl))
    rw [← view_of_none hdraft'] at hstored'
    refine ⟨stored', hstored', fun hready => ?_⟩
    rw [hdraft', hpage] at hready
    rcases hready with hready | hready <;> cases hready
  | executed o _ game =>
    obtain ⟨-, line, hline, -⟩ := h
    cases hpage.symm.trans hline
  | saved o _ =>
    obtain ⟨-, stored, line, -, hline, -⟩ := h
    cases hpage.symm.trans hline
  | _ => trivial

/-! ## Steps that commit nothing -/

/-- As long as nothing is committed, only the request that comes further has to be looked at. -/
theorem Kept.stays (h : s.Kept settings asks) (hs : s.Frame k s')
    (hsessions : s'.site.sessions = s.site.sessions)
    (hlines : ∀ id, s'.linesOf asks id = s.linesOf asks id)
    (hself : s'.Backs settings asks k (s'.progress k))
    (hdone : ∀ id, (s'.progress k).done? = some id → (s.site.sessions.get? id).isSome = true)
    (hdraft : ∀ w, s'.draftOf k = some w →
      ∃ o, (s'.progress k).session? = some o ∧ s.Drafts asks k o w) :
    s'.Kept settings asks := by
  have hview : ∀ {j}, j ≠ k → s'.view j = s.view j := fun hj => by
    rw [view, view, hs.drafts hj, hsessions]
  constructor
  case stored =>
    intro id stored hget
    rw [hsessions] at hget
    rw [hlines]
    exact .later (h.stored hget) hs.drawn
  case done =>
    intro j id hj
    rw [hsessions]
    by_cases hjk : j = k
    · exact hdone id (hjk ▸ hj)
    · rw [hs.others hjk] at hj
      exact h.done hj
  case backs =>
    intro j
    by_cases hjk : j = k
    · exact hjk ▸ hself
    · rw [hs.others hjk]
      exact (h.backs j).later (fun o _ => by rw [hview hjk]) (fun o _ => hlines o.id)
        (hs.drafts hjk) hs.drawn
  case draft =>
    intro j w hw
    have hkept : ∃ o, (s'.progress j).session? = some o ∧ s.Drafts asks j o w := by
      by_cases hjk : j = k
      · subst hjk
        exact hdraft w hw
      · rw [hs.drafts hjk] at hw
        rw [hs.others hjk]
        exact h.draft hw
    obtain ⟨o, ho, hdrafts⟩ := hkept
    refine ⟨o, ho, ?_, ?_⟩
    · intro id hid
      rw [hsessions]
      exact hdrafts.others hid
    · intro hpage
      rw [hsessions]
      exact hdrafts.fresh hpage

theorem linesOf_move {t : Traffic Key} (hadmitted : t.admitted = s.admitted)
    (hprogress : t.progress = s.progress) (hdone : (s.progress k).done? = none)
    (hp : p.done? = none) (id : Int) : (t.move k p).linesOf asks id = s.linesOf asks id := by
  have hsame : (t.move k p).admitted = s.admitted := hadmitted
  rw [linesOf, linesOf, hsame]
  refine List.filterMap_congr fun j _ => ?_
  by_cases hj : j = k
  · subst hj
    rw [progress_move, hp, hdone]
  · rw [progress_move_of_ne _ p hj, hprogress]

theorem Kept.move {ids : IdSupply} (h : s.Kept settings asks)
    (hids : s.site.ids.drawn ≤ ids.drawn) (hdone : (s.progress k).done? = none)
    (hp : p.done? = none) (hbegun : p ≠ .waiting)
    (hself : ((s.withIds ids).move k p).Backs settings asks k p)
    (hdraft : ∀ w, s.draftOf k = some w → ∃ o, p.session? = some o ∧ s.Drafts asks k o w) :
    ((s.withIds ids).move k p).Kept settings asks := by
  have hframe : s.Frame k ((s.withIds ids).move k p) := (advances_move hids hbegun).toFrame
  have hprogress : ((s.withIds ids).move k p).progress k = p := progress_move _ k p
  refine h.stays hframe rfl (linesOf_move rfl rfl hdone hp) ?_ ?_ ?_
  · rwa [hprogress]
  · intro id hid
    rw [hprogress, hp] at hid
    cases hid
  · rw [hprogress]
    exact hdraft

theorem Kept.write (h : s.Kept settings asks) (hfree : s.isFree k = true)
    (hdone : (s.progress k).done? = none) (hp : p.done? = none) (ho : p.session? = some o)
    (hself : (s.write k w p).Backs settings asks k p) (hdrafts : s.Drafts asks k o w) :
    (s.write k w p).Kept settings asks := by
  have hbegun : p ≠ .waiting := by
    rintro rfl
    cases ho
  have hframe : s.Frame k (s.write k w p) := (advances_write hfree hbegun).toFrame
  have hprogress : (s.write k w p).progress k = p := progress_write s k w p
  refine h.stays hframe rfl (linesOf_of_frame hframe rfl (Or.inl ?_)) ?_ ?_ ?_
  · rw [hprogress, hp, hdone]
  · rwa [hprogress]
  · intro id hid
    rw [hprogress, hp] at hid
    cases hid
  · intro w' hw'
    have hdraft : (s.write k w p).draft = some (k, w) := rfl
    rw [draftOf_eq_some_iff, hdraft] at hw'
    cases hw'
    rw [hprogress]
    exact ⟨o, ho, hdrafts⟩

theorem Kept.abort {ids : IdSupply} (h : s.Kept settings asks)
    (hids : s.site.ids.drawn ≤ ids.drawn) (hdone : (s.progress k).done? = none) :
    ((s.withIds ids).abort k).Kept settings asks := by
  have hframe : s.Frame k ((s.withIds ids).abort k) := (advances_abort hids).toFrame
  have hprogress : ((s.withIds ids).abort k).progress k = .broken := progress_abort _ k
  refine h.stays hframe rfl (linesOf_of_frame hframe rfl (Or.inl ?_)) ?_ ?_ ?_
  · rw [hprogress, hdone]
    rfl
  · rw [hprogress]
    trivial
  · intro id hid
    rw [hprogress] at hid
    cases hid
  · intro w hw
    rw [draftOf_of_filter (s := s) rfl, if_pos rfl] at hw
    cases hw

theorem Kept.grant (h : s.Kept settings asks) (hp : s.progress k = .waiting) :
    (s.grant k).Kept settings asks := by
  have hprogress : (s.grant k).progress k = .admitted := progress_grant s k
  refine h.stays (frame_grant s k) rfl (linesOf_grant hp) ?_ ?_ ?_
  · rw [hprogress]
    trivial
  · intro id hid
    rw [hprogress] at hid
    cases hid
  · intro w hw
    have hnone : s.draftOf k = none := h.draftOf_eq_none (by rw [hp]; rfl)
    cases hnone.symm.trans hw

theorem Kept.leave (h : s.Kept settings asks) (hdone : p.done? = (s.progress k).done?)
    (hsession : (s.progress k).session? = none) (hself : (s.leave k p).Backs settings asks k p) :
    (s.leave k p).Kept settings asks := by
  have hprogress : (s.leave k p).progress k = p := progress_leave s k p
  refine h.stays (frame_leave s k p) rfl (linesOf_of_frame (frame_leave s k p) rfl (Or.inl ?_))
    ?_ ?_ ?_
  · rw [hprogress, hdone]
  · rwa [hprogress]
  · intro id hid
    rw [hprogress, hdone] at hid
    exact h.done hid
  · intro w hw
    cases (h.draftOf_eq_none hsession).symm.trans hw

theorem Kept.begin (h : s.Kept settings asks) (hdone : (s.progress k).done? = none)
    (hsession : (s.progress k).session? = none) : (s.begin settings k).Kept settings asks := by
  have hdrawn := drawn_le_newGame settings s.site.ids
  unfold Traffic.begin
  rcases hnew : Game.newGame settings s.site.ids with ⟨_ | _, game, ids⟩
  · rw [hnew] at hdrawn
    exact h.abort hdrawn hdone
  · rw [hnew] at hdrawn
    refine h.move hdrawn hdone rfl (by rintro ⟨⟩) (Play.Follows.begin hnew) fun w hw => ?_
    cases (h.draftOf_eq_none hsession).symm.trans hw

theorem Kept.look (h : s.Kept settings asks) (hdone : (s.progress k).done? = none)
    (hsession : (s.progress k).session? = none) (cookie : Option String) :
    (s.look settings k cookie).Kept settings asks := by
  have hdraft := h.draftOf_eq_none hsession
  unfold Traffic.look
  split
  · exact h.abort (Nat.le_refl _) hdone
  · exact h.begin hdone hsession
  next id _ =>
    split
    · exact h.abort (Nat.le_refl _) hdone
    · exact h.begin hdone hsession
    next game hload =>
      rw [view_of_none hdraft] at hload
      obtain ⟨stored, hget, rfl⟩ := Sessions.exists_of_load? hload
      have hself : (s.move k (.opened ⟨id, stored.game, false⟩)).Backs settings asks k
          (.opened ⟨id, stored.game, false⟩) := by
        refine ⟨stored, ?_, fun _ => ⟨rfl, ?_⟩⟩
        · exact (congrArg (Sessions.get? · id) (view_of_none hdraft)).trans hget
        · have hlines : (s.move k (.opened ⟨id, stored.game, false⟩)).linesOf asks id =
              s.linesOf asks id := linesOf_move rfl rfl hdone rfl id
          exact hlines ▸ h.stored hget
      have hdrawn : s.site.ids.drawn ≤ s.site.ids.drawn := Nat.le_refl _
      refine h.move hdrawn hdone rfl (by rintro ⟨⟩) hself fun w hw => ?_
      cases hdraft.symm.trans hw

theorem Kept.create {game : Game} (h : s.Kept settings asks) (hfree : s.isFree k = true)
    (hp : s.progress k = .begun game) : (s.create k game).Kept settings asks := by
  have hdone : (s.progress k).done? = none := by rw [hp]; rfl
  have hdraft : s.draftOf k = none := h.draftOf_eq_none (by rw [hp]; rfl)
  have hfollows := h.backs k
  rw [hp] at hfollows
  unfold Traffic.create
  rw [view_of_none hdraft]
  split
  · exact h.abort (Nat.le_refl _) hdone
  next n w hcreate =>
    obtain ⟨hnew, hothers, stored, hget, hgame⟩ := Sessions.get?_of_create hcreate
    have hlines : (s.write k w (.opened ⟨n, game, true⟩)).linesOf asks n = [] :=
      (linesOf_move rfl rfl hdone rfl n).trans (h.linesOf_eq_nil hnew)
    refine h.write hfree hdone rfl rfl ⟨stored, ?_, fun _ => ⟨hgame, ?_⟩⟩
      ⟨fun hid => hothers _ hid, fun _ => hnew⟩
    · rw [view_write]
      exact hget
    · rw [hlines]
      exact hfollows

theorem Kept.execute {line : String} (h : s.Kept settings asks)
    (hp : s.progress k = .opened o) (hline : (asks k).purpose.line? = some line) :
    (s.execute settings k o line).Kept settings asks := by
  have hdone : (s.progress k).done? = none := by rw [hp]; rfl
  have hdrawn := Interpreter.drawn_le_execute { settings } ⟨o.game, s.site.ids⟩ line
  have hbacks := h.backs k
  rw [hp] at hbacks
  obtain ⟨stored, hget, hready⟩ := hbacks
  obtain ⟨-, hfollows⟩ := hready (Or.inr (by rw [hline]; rfl))
  unfold Traffic.execute
  rcases hrun : ({ settings } : Interpreter).execute ⟨o.game, s.site.ids⟩ line with
    ⟨_ | answer, play⟩
  · rw [hrun] at hdrawn
    exact h.abort hdrawn hdone
  · rw [hrun] at hdrawn
    have hlines : ((s.withIds play.ids).move k (.executed o answer play.game)).linesOf asks o.id =
        s.linesOf asks o.id := linesOf_move rfl rfl hdone rfl o.id
    refine h.move hdrawn hdone rfl (by rintro ⟨⟩) ⟨?_, line, hline, ?_⟩ fun w hw => ?_
    · exact Option.isSome_iff_exists.mpr ⟨stored, hget⟩
    · rw [hlines]
      exact hfollows.line hrun
    · obtain ⟨o', ho', hdrafts⟩ := h.draft hw
      rw [hp] at ho'
      cases ho'
      exact ⟨o, rfl, hdrafts⟩

theorem Kept.save {answer : Text} {game : Game} (h : s.Kept settings asks)
    (hfree : s.isFree k = true) (hp : s.progress k = .executed o answer game) :
    (s.save k o answer game).Kept settings asks := by
  have hdone : (s.progress k).done? = none := by rw [hp]; rfl
  have hbacks := h.backs k
  rw [hp] at hbacks
  obtain ⟨hsome, line, hline, hfollows⟩ := hbacks
  obtain ⟨stored, hget⟩ := Option.isSome_iff_exists.mp hsome
  unfold Traffic.save
  split
  · exact h.abort (Nat.le_refl _) hdone
  next saved hsave =>
    obtain ⟨w, rfl⟩ := Sessions.exists_of_save? hget hsave
    obtain ⟨hothers, stored', hget', hgame⟩ := Sessions.get?_of_save? hsave
    have hlines : (s.write k w (.saved o (Page.answer answer))).linesOf asks o.id =
        s.linesOf asks o.id := linesOf_move rfl rfl hdone rfl o.id
    refine h.write hfree hdone rfl rfl ⟨?_, stored', line, ?_, hline, ?_⟩ ⟨fun hid => ?_, ?_⟩
    · rw [Option.getD_some, draftOf_write]
      rfl
    · rw [Option.getD_some, view_write]
      exact hget'
    · rw [hgame]
      exact hlines ▸ hfollows
    · exact (hothers _ hid).trans (h.get?_view_of_ne (by rw [hp]; rfl) hid)
    · intro hpage
      cases hpage.symm.trans hline

/-! ## A step that commits -/

theorem isInside_of_session? (h : p.session? = some o) : p.isInside = true := by
  cases p with
  | opened | executed | saved => rfl
  | _ => cases h

theorem done?_of_session? (h : p.session? = some o) : p.done? = none := by
  cases p with
  | opened | executed | saved => rfl
  | _ => cases h

/-- What another command is about to do stays as it was: where it has the lock, the one that commits
shows a page and has stored a new session only. -/
theorem Kept.backs_commit {line : String} {page : Text} (h : s.Kept settings asks)
    (hl : s.Locked asks) (hw : s.draftOf k = some w) (ho : (s.progress k).session? = some o)
    (hj : j ≠ k) (hline : (asks j).purpose.line? = some line) :
    (s.commit k o page).Backs settings asks j (s.progress j) := by
  have hframe : s.Frame k (s.commit k o page) := (advances_commit s k o page).toFrame
  have hnone : s.draftOf j = none := by
    cases hdraft : s.draftOf j with
    | none => rfl
    | some w' => exact absurd (eq_of_draftOf hdraft hw) hj
  have hnone' : (s.commit k o page).draftOf j = none := (hframe.drafts hj).trans hnone
  have hsessions : (s.commit k o page).site.sessions = w := view_of_some hw
  -- The two cannot both have the lock.
  have hpage : ∀ o', (s.progress j).session? = some o' → (asks k).purpose.line? = none := by
    intro o' ho'
    cases hk : (asks k).purpose.line? with
    | none => rfl
    | some line' =>
      have hlock := hl.holder hk (isInside_of_session? ho)
      have hlock' := hl.holder hline (isInside_of_session? ho')
      exact absurd (Option.some.inj (hlock'.symm.trans hlock)) hj
  obtain ⟨o₁, ho₁, hdrafts⟩ := h.draft hw
  cases ho.symm.trans ho₁
  refine (h.backs j).later (fun o' ho' => ?_) (fun o' ho' => ?_) (hframe.drafts hj) hframe.drawn
  · have hsome := h.isSome_get? ho'
    rw [view_of_none hnone] at hsome
    have hne : o'.id ≠ o.id := by
      intro hid
      rw [hid, hdrafts.fresh (hpage o' ho')] at hsome
      cases hsome
    rw [view_of_none hnone, view_of_none hnone', hsessions]
    exact hdrafts.others hne
  · exact linesOf_of_frame hframe rfl (Or.inr (hpage o' ho')) o'.id

theorem Kept.commit_draft {page : Text} {stored : StoredGame} (h : s.Kept settings asks)
    (hl : s.Locked asks) (hw : s.draftOf k = some w) (ho : (s.progress k).session? = some o)
    (hget : w.get? o.id = some stored)
    (hfollows : Play.Follows settings ((s.commit k o page).linesOf asks o.id)
      ⟨stored.game, s.site.ids⟩)
    (hlines : ∀ id, id ≠ o.id → (s.commit k o page).linesOf asks id = s.linesOf asks id) :
    (s.commit k o page).Kept settings asks := by
  have hframe : s.Frame k (s.commit k o page) := (advances_commit s k o page).toFrame
  have hsessions : (s.commit k o page).site.sessions = w := view_of_some hw
  have hprogress : (s.commit k o page).progress k = .committed o page := progress_commit s k o page
  obtain ⟨o', ho', hdrafts⟩ := h.draft hw
  cases ho.symm.trans ho'
  have hgrows : ∀ id, (s.site.sessions.get? id).isSome = true →
      ((s.commit k o page).site.sessions.get? id).isSome = true := by
    intro id hid
    rw [hsessions]
    by_cases hsame : id = o.id
    · rw [hsame, hget]
      rfl
    · rwa [hdrafts.others hsame]
  constructor
  case stored =>
    intro id stored' hstored
    rw [hsessions] at hstored
    by_cases hsame : id = o.id
    · rw [hsame, hget] at hstored
      cases hstored
      rw [hsame]
      exact hfollows
    · rw [hdrafts.others hsame] at hstored
      rw [hlines id hsame]
      exact h.stored hstored
  case done =>
    intro j id hj
    by_cases hjk : j = k
    · rw [hjk, hprogress] at hj
      cases hj
      rw [hsessions, hget]
      rfl
    · rw [hframe.others hjk] at hj
      exact hgrows id (h.done hj)
  case backs =>
    intro j
    by_cases hjk : j = k
    · rw [hjk, hprogress]
      trivial
    · rw [hframe.others hjk]
      cases hline : (asks j).purpose.line? with
      | some line => exact h.backs_commit hl hw ho hjk hline
      | none =>
        have hnone : s.draftOf j = none := by
          cases hdraft : s.draftOf j with
          | none => rfl
          | some w' => exact absurd (eq_of_draftOf hdraft hw) hjk
        exact (h.backs j).later_of_page hline hnone ((hframe.drafts hjk).trans hnone) hgrows
          hframe.drawn
  case draft =>
    intro j w' hw'
    by_cases hjk : j = k
    · rw [draftOf_of_filter (s := s) rfl, if_pos hjk] at hw'
      cases hw'
    · rw [hframe.drafts hjk] at hw'
      exact absurd (eq_of_draftOf hw' hw) hjk

/-- Where a page is shown, either nothing is committed or a new session, which has no lines yet. -/
theorem Kept.commit_page (h : s.Kept settings asks) (hl : s.Locked asks)
    (hp : s.progress k = .opened o) (hpage : (asks k).purpose.line? = none) (page : Text) :
    (s.commit k o page).Kept settings asks := by
  have hframe : s.Frame k (s.commit k o page) := (advances_commit s k o page).toFrame
  have ho : (s.progress k).session? = some o := by rw [hp]; rfl
  have hlines : ∀ id, (s.commit k o page).linesOf asks id = s.linesOf asks id :=
    linesOf_of_frame hframe rfl (Or.inr hpage)
  have hbacks := h.backs k
  rw [hp] at hbacks
  obtain ⟨stored, hget, hready⟩ := hbacks
  cases hdraft : s.draftOf k with
  | some w =>
    rw [view_of_some hdraft] at hget
    obtain ⟨hgame, hfollows⟩ := hready (Or.inl (by rw [hdraft]; rfl))
    refine h.commit_draft hl hdraft ho hget ?_ fun id _ => hlines id
    rw [hlines, hgame]
    exact hfollows
  | none =>
    have hprogress : (s.commit k o page).progress k = .committed o page :=
      progress_commit s k o page
    have hview := view_of_none hdraft
    refine h.stays hframe hview hlines ?_ ?_ ?_
    · rw [hprogress]
      trivial
    · intro id hid
      rw [hprogress] at hid
      cases hid
      rw [← hview, hget]
      rfl
    · intro w hw
      rw [draftOf_of_filter (s := s) rfl, if_pos rfl] at hw
      cases hw

/-- A command has the lock when it commits, so its line is the last one. -/
theorem Kept.commit_command {page : Text} (h : s.Kept settings asks) (hl : s.Locked asks)
    (hp : s.progress k = .saved o page) : (s.commit k o page).Kept settings asks := by
  have ho : (s.progress k).session? = some o := by rw [hp]; rfl
  have hbacks := h.backs k
  rw [hp] at hbacks
  obtain ⟨hdrafted, stored, line, hget, hline, hfollows⟩ := hbacks
  obtain ⟨w, hw⟩ := Option.isSome_iff_exists.mp hdrafted
  rw [view_of_some hw] at hget
  have hlines : ∀ id, (s.commit k o page).linesOf asks id =
      s.linesOf asks id ++ if o.id = id then [line] else [] :=
    linesOf_commit hl hline (hl.holder hline (isInside_of_session? ho)) (done?_of_session? ho)
  refine h.commit_draft hl hw ho hget ?_ fun id hid => ?_
  · rw [hlines, if_pos rfl]
    exact hfollows
  · rw [hlines, if_neg (Ne.symm hid), List.append_nil]

/-! ## Any step -/

theorem Kept.step (h : s.Kept settings asks) (hl : s.Locked asks) (k : Key) :
    (s.step settings asks k).Kept settings asks := by
  unfold Traffic.step
  cases hp : s.progress k with
  | waiting =>
    cases hpurpose : (asks k).purpose with
    | page query => exact h.look (by rw [hp]; rfl) (by rw [hp]; rfl) _
    | command line =>
      cases s.lock with
      | none => exact h.grant hp
      | some _ => exact h
  | admitted => exact h.look (by rw [hp]; rfl) (by rw [hp]; rfl) _
  | begun game =>
    cases hfree : s.isFree k with
    | true => exact h.create hfree hp
    | false => exact h
  | opened o =>
    cases hpurpose : (asks k).purpose with
    | page query => exact h.commit_page hl hp (by rw [hpurpose]; rfl) _
    | command line => exact h.execute hp (by rw [hpurpose]; rfl)
  | executed o answer game =>
    cases hfree : s.isFree k with
    | true => exact h.save hfree hp
    | false => exact h
  | saved o page => exact h.commit_command hl hp
  | committed o page => exact h.leave (by rw [hp]; rfl) (by rw [hp]; rfl) trivial
  | broken => exact h.leave (by rw [hp]; rfl) (by rw [hp]; rfl) trivial
  | answered | failed => exact h

/-! ## Any steps -/

theorem after_append_singleton (settings : Settings) (asks : Key → Arrival) (s : Traffic Key)
    (schedule : List Key) (k : Key) :
    s.after settings asks (schedule ++ [k]) =
      (s.after settings asks schedule).step settings asks k := by
  rw [after, List.foldl_append]
  rfl

/-- The traffic at a site where nothing is stored yet, after steps of any requests. -/
theorem locked_and_kept_after (settings : Settings) (asks : Key → Arrival) (ids : IdSupply)
    (schedule : List Key) :
    (after settings asks { site := { ids } } schedule).Locked asks ∧
      (after settings asks { site := { ids } } schedule).Kept settings asks := by
  induction schedule using List.reverseRecOn with
  | nil => exact ⟨locked_empty _, kept_empty ids⟩
  | append_singleton schedule k ih =>
    rw [after_append_singleton]
    exact ⟨ih.1.step k, ih.2.step ih.1 k⟩

end Discourse.Web.Traffic
