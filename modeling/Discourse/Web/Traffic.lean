import Discourse.Web.Server
import Mathlib.Logic.Function.Basic

/-!
# Requests at the same time

Requests that are handled side by side. Each one goes on step by step, and between two of its steps
any other one may go on. A command waits for the lock, of which there is one, and keeps it until it
is done; a page is shown without it. What a request has stored is its own until it commits, and
while one has stored something the others wait to store.

* `Progress`: how far a request has come.
* `Traffic`: a site, and the requests on their way.
* `Traffic.step`, `Traffic.after`: one step of one request, and steps of any requests in turn.
* `Traffic.linesOf`: the commands that were carried out in a session, in the order of the lock.
-/

namespace Discourse.Web

/-! ## Requests -/

/-- What a request for the page is for. -/
inductive Purpose where
  /-- To see the form or the transcript. -/
  | page (query : String)
  /-- To have a line executed. -/
  | command (line : String)
  deriving DecidableEq, Repr

/-- The line that is to be executed, if there is one. -/
def Purpose.line? : Purpose → Option String
  | page _ => none
  | command line => some line

/-- A request for the page, and the visitor's cookie. -/
structure Arrival where
  cookie : Option String := none
  purpose : Purpose
  deriving DecidableEq, Repr

/-- What a request asks of the page, if it asks anything of it. -/
def Request.arrival? (r : Request) : Option Arrival :=
  let cookie := r.cookie.bind (cookie? cookieName)
  match r.method with
  | .get => some ⟨cookie, .page r.query⟩
  | .post => r.form.command?.map fun line => ⟨cookie, .command line⟩
  | .other => none

/-- The response to a request that is handled while there is no other. -/
def Arrival.handle (settings : Settings) (site : Site) (a : Arrival) : Response × Site :=
  match a.purpose with
  | .page query => settle (showPage settings site a.cookie query)
  | .command line => settle (runCommand settings site a.cookie line)

/-- The page that is shown to a visitor. -/
def Opened.page (o : Opened) (query : String) : Text :=
  if wantsTranscript query then Page.transcript o.game.transcript
  else Page.answer (if o.isNew then Reply.welcomeText else welcomeBack)

/-- How far a request has come. -/
inductive Progress where
  /-- It has not begun. -/
  | waiting
  /-- It has the lock. -/
  | admitted
  /-- There is no session for it, and a new game is ready to be stored. -/
  | begun (game : Game)
  /-- It has a session. -/
  | opened (session : Opened)
  /-- Its command is executed in the game of its session, and the game is ready to be saved. -/
  | executed (session : Opened) (answer : Text) (game : Game)
  /-- The game is saved. -/
  | saved (session : Opened) (page : Text)
  /-- Everything it has stored is there for others. -/
  | committed (session : Opened) (page : Text)
  | answered (session : Opened) (page : Text)
  /-- Something went wrong, and what it has stored is given up. -/
  | broken
  | failed

namespace Progress

instance : Inhabited Progress := ⟨waiting⟩

/-- The session that the request has in hand before it commits. -/
def session? : Progress → Option Opened
  | opened o | executed o _ _ | saved o _ => some o
  | _ => none

/-- The number of the session for which the request was carried out. -/
def done? : Progress → Option Int
  | committed o _ | answered o _ => some o.id
  | _ => none

@[simp] theorem done?_admitted : admitted.done? = none := rfl

@[simp] theorem done?_committed (o : Opened) (page : Text) :
    (committed o page).done? = some o.id := rfl

/-- Whether the request has begun and is not yet answered. -/
def isInside : Progress → Bool
  | waiting | answered _ _ | failed => false
  | _ => true

/-- The response, once there is one. -/
def response? : Progress → Option Response
  | answered o page => some (respondWith o page)
  | failed => some Web.failed
  | _ => none

end Progress

/-! ## Steps -/

/-- A site, and the requests on their way. -/
structure Traffic (Key : Type) where
  site : Site := {}
  /-- Who has the lock. -/
  lock : Option Key := none
  /-- Who has stored something and not yet committed it, and the store as it then will be. -/
  draft : Option (Key × Sessions) := none
  progress : Key → Progress := fun _ => .waiting
  /-- Those to whom the lock was given, in order. -/
  admitted : List Key := []

namespace Traffic

variable {Key : Type} [DecidableEq Key]

/-- The traffic when one request has come further. -/
def move (s : Traffic Key) (k : Key) (p : Progress) : Traffic Key :=
  { s with progress := Function.update s.progress k p }

@[simp] theorem progress_move (s : Traffic Key) (k : Key) (p : Progress) :
    (s.move k p).progress k = p := by
  simp [move]

theorem progress_move_of_ne (s : Traffic Key) {j k : Key} (p : Progress) (h : j ≠ k) :
    (s.move k p).progress j = s.progress j := by
  simp [move, h]

/-- What a request has stored and not yet committed. -/
def draftOf (s : Traffic Key) (k : Key) : Option Sessions :=
  s.draft.bind fun d => if d.1 = k then some d.2 else none

/-- The store as a request sees it. -/
def view (s : Traffic Key) (k : Key) : Sessions := (s.draftOf k).getD s.site.sessions

theorem view_of_none {s : Traffic Key} {k : Key} (h : s.draftOf k = none) :
    s.view k = s.site.sessions := by
  rw [view, h, Option.getD_none]

theorem view_of_some {s : Traffic Key} {k : Key} {sessions : Sessions}
    (h : s.draftOf k = some sessions) : s.view k = sessions := by
  rw [view, h, Option.getD_some]

/-- Whether nobody else has stored anything that is not yet committed. -/
def isFree (s : Traffic Key) (k : Key) : Bool := s.draft.all fun d => d.1 = k

theorem draftOf_eq_some_iff {s : Traffic Key} {k : Key} {sessions : Sessions} :
    s.draftOf k = some sessions ↔ s.draft = some (k, sessions) := by
  simp only [draftOf, Option.bind_eq_some_iff, Option.ite_none_right_eq_some, Option.some.injEq,
    Prod.exists]
  constructor
  · rintro ⟨_, _, hdraft, rfl, rfl⟩
    exact hdraft
  · exact fun hdraft => ⟨k, sessions, hdraft, rfl, rfl⟩

theorem draftOf_of_isFree {s : Traffic Key} {j k : Key} (h : s.isFree k = true) (hj : j ≠ k) :
    s.draftOf j = none := by
  cases hdraft : s.draftOf j with
  | none => rfl
  | some sessions =>
    rw [isFree, draftOf_eq_some_iff.mp hdraft] at h
    exact absurd (of_decide_eq_true h) hj

/-- What a request gives up or commits is no draft any more, and other drafts stay. -/
theorem draftOf_of_filter {s t : Traffic Key} {k : Key}
    (h : t.draft = s.draft.filter fun d => d.1 ≠ k) (j : Key) :
    t.draftOf j = if j = k then none else s.draftOf j := by
  rw [draftOf, draftOf, h]
  cases s.draft with
  | none => exact (ite_self _).symm
  | some d =>
    by_cases hd : d.1 = k
    · subst hd
      by_cases hj : j = d.1
      · simp [hj]
      · simp [hj, Ne.symm hj]
    · by_cases hj : j = k
      · subst hj
        simp
      · simp [Option.filter, hd, hj]

/-- Draws identifiers. -/
def withIds (s : Traffic Key) (ids : IdSupply) : Traffic Key :=
  { s with site := ⟨s.site.sessions, ids⟩ }

/-- Gives the lock to a request. -/
def grant (s : Traffic Key) (k : Key) : Traffic Key :=
  { s with lock := some k, admitted := s.admitted ++ [k] }.move k .admitted

/-- Stores something that others do not see yet. -/
def write (s : Traffic Key) (k : Key) (sessions : Sessions) (p : Progress) : Traffic Key :=
  { s with draft := some (k, sessions) }.move k p

/-- Lets others see what a request has stored. -/
def commit (s : Traffic Key) (k : Key) (o : Opened) (page : Text) : Traffic Key :=
  { s with
    site := ⟨s.view k, s.site.ids⟩
    draft := s.draft.filter fun d => d.1 ≠ k }.move k (.committed o page)

/-- Gives up what a request has stored. -/
def abort (s : Traffic Key) (k : Key) : Traffic Key :=
  { s with draft := s.draft.filter fun d => d.1 ≠ k }.move k .broken

/-- Lets a request go, and the lock if the request has it. -/
def leave (s : Traffic Key) (k : Key) (p : Progress) : Traffic Key :=
  { s with lock := s.lock.filter (· ≠ k) }.move k p

@[simp] theorem progress_grant (s : Traffic Key) (k : Key) :
    (s.grant k).progress k = .admitted := progress_move _ k .admitted

@[simp] theorem progress_write (s : Traffic Key) (k : Key) (sessions : Sessions) (p : Progress) :
    (s.write k sessions p).progress k = p := progress_move _ k p

@[simp] theorem progress_commit (s : Traffic Key) (k : Key) (o : Opened) (page : Text) :
    (s.commit k o page).progress k = .committed o page := progress_move _ k (.committed o page)

@[simp] theorem progress_abort (s : Traffic Key) (k : Key) :
    (s.abort k).progress k = .broken := progress_move _ k .broken

@[simp] theorem progress_leave (s : Traffic Key) (k : Key) (p : Progress) :
    (s.leave k p).progress k = p := progress_move _ k p

@[simp] theorem draftOf_write (s : Traffic Key) (k : Key) (sessions : Sessions) (p : Progress) :
    (s.write k sessions p).draftOf k = some sessions := draftOf_eq_some_iff.mpr rfl

@[simp] theorem view_write (s : Traffic Key) (k : Key) (sessions : Sessions) (p : Progress) :
    (s.write k sessions p).view k = sessions := view_of_some (draftOf_write s k sessions p)

/-- Sets up a new game. -/
def begin (settings : Settings) (s : Traffic Key) (k : Key) : Traffic Key :=
  match Game.newGame settings s.site.ids with
  | (.error _, _, ids) => (s.withIds ids).abort k
  | (.ok _, game, ids) => (s.withIds ids).move k (.begun game)

/-- Looks for the session of a visitor. -/
def look (settings : Settings) (s : Traffic Key) (k : Key) (cookie : Option String) :
    Traffic Key :=
  match sessionNumber? cookie with
  | .error _ => s.abort k
  | .ok none => s.begin settings k
  | .ok (some id) =>
    match (s.view k).load? id with
    | .error _ => s.abort k
    | .ok none => s.begin settings k
    | .ok (some game) => s.move k (.opened ⟨id, game, false⟩)

/-- Stores a new game. -/
def create (s : Traffic Key) (k : Key) (g : Game) : Traffic Key :=
  match (s.view k).create g with
  | .error _ => s.abort k
  | .ok (id, sessions) => s.write k sessions (.opened ⟨id, g, true⟩)

/-- Executes a line in the game of a session. -/
def execute (settings : Settings) (s : Traffic Key) (k : Key) (o : Opened) (line : String) :
    Traffic Key :=
  match ({ settings } : Interpreter).execute ⟨o.game, s.site.ids⟩ line with
  | (.error _, play) => (s.withIds play.ids).abort k
  | (.ok answer, play) => (s.withIds play.ids).move k (.executed o answer play.game)

/-- Saves a game over that of a session. -/
def save (s : Traffic Key) (k : Key) (o : Opened) (answer : Text) (g : Game) : Traffic Key :=
  match (s.view k).save? o.id g with
  | .error _ => s.abort k
  | .ok saved => s.write k (saved.getD (s.view k)) (.saved o (Page.answer answer))

/-- The traffic after the next step of a request. One that has to wait stays where it is. -/
def step (settings : Settings) (asks : Key → Arrival) (s : Traffic Key) (k : Key) : Traffic Key :=
  match s.progress k with
  | .waiting =>
    match (asks k).purpose with
    | .page _ => s.look settings k (asks k).cookie
    | .command _ => if s.lock.isNone then s.grant k else s
  | .admitted => s.look settings k (asks k).cookie
  | .begun game => if s.isFree k then s.create k game else s
  | .opened o =>
    match (asks k).purpose with
    | .page query => s.commit k o (o.page query)
    | .command line => s.execute settings k o line
  | .executed o answer game => if s.isFree k then s.save k o answer game else s
  | .saved o page => s.commit k o page
  | .committed o page => s.leave k (.answered o page)
  | .broken => s.leave k .failed
  | .answered _ _ | .failed => s

/-- The traffic after steps of requests, one at a time. -/
def after (settings : Settings) (asks : Key → Arrival) (s : Traffic Key) (schedule : List Key) :
    Traffic Key :=
  schedule.foldl (step settings asks) s

/-- The lines that were carried out in a session, in the order in which the lock was given. -/
def linesOf (asks : Key → Arrival) (s : Traffic Key) (id : Int) : List String :=
  s.admitted.filterMap fun k =>
    if (s.progress k).done? = some id then (asks k).purpose.line? else none

end Traffic

end Discourse.Web
