import Discourse.Proofs.Command.Failure
import Discourse.Proofs.Interpreter.Mirror
import Discourse.Proofs.Sessions
import Discourse.Proofs.Web.Cookie

/-!
# One request

Between two requests a game exists only as what is stored. A visitor is nevertheless answered as if
an interpreter had kept a game for it all the time: the identifiers in the stored game are others,
but whatever is said is the same.

* `Site.Knows`: what a site has stored for a visitor.
* `Opens`: a session that was opened.
* `Served`: what a request comes to.
* `exists_served`: whoever the site knows is served.
-/

namespace Discourse

/-! ## Mirrors in store -/

namespace Play.Mirrors

variable {p q : Play}

theorem transcript_eq (h : p.Mirrors q) : q.game.transcript = p.game.transcript := by
  obtain ⟨σ, hgame, -⟩ := h.renamed
  rw [hgame, Game.transcript_rename]

theorem loneHalves?_eq_none (h : p.Mirrors q) :
    StoredGame.loneHalves? q.game.transcript = none := by
  rw [h.transcript_eq]
  exact StoredGame.loneHalves?_eq_none h.madeOf.transcript

end Play.Mirrors

namespace Web

variable {settings : Settings} {site site' : Site} {cookie : Option String} {id : Nat} {p : Play}

theorem opening_mirrors (hs : settings.IsWhole) (ids : IdSupply) :
    (opening settings).Mirrors
      ⟨(Game.newGame settings ids).2.1, (Game.newGame settings ids).2.2⟩ :=
  ((Play.mirrors_empty ids).newGame hs).2

/-- The session of the number is a game that mirrors the play. -/
def Site.Holds (site : Site) (id : Nat) (p : Play) : Prop :=
  ∃ stored, site.sessions.get? id = some stored ∧ p.Mirrors ⟨stored.game, site.ids⟩

/-- Who has no cookie has only begun; any other cookie carries the number of a session that holds
what its visitor has come to. -/
def Site.Knows (settings : Settings) (site : Site) (cookie : Option String) (p : Play) : Prop :=
  (cookie = none ∧ p = opening settings) ∨
    ∃ id, cookie = some (sessionPair id) ∧ site.Holds id p

/-- The number under which a visitor's game is stored, or would be stored next. -/
def Site.Assigns (site : Site) (cookie : Option String) (id : Nat) : Prop :=
  cookie = some (sessionPair id) ∨ (cookie = none ∧ id = site.sessions.nextId)

/-- One session may have changed, and identifiers may have been drawn. -/
structure Site.Keeps (id : Nat) (site site' : Site) : Prop where
  drawn : site.ids.drawn ≤ site'.ids.drawn
  sessions : Sessions.Keeps id site.sessions site'.sessions

theorem Site.Holds.kept {m : Nat} (h : site.Holds m p) (hm : m ≠ id)
    (hkeeps : Site.Keeps id site site') : site'.Holds m p := by
  obtain ⟨stored, hget, hmirrors⟩ := h
  exact ⟨stored, (hkeeps.sessions.get? m hm).trans hget, hmirrors.later hkeeps.drawn⟩

theorem Site.Knows.kept (h : site.Knows settings cookie p)
    (hcookie : cookie ≠ some (sessionPair id)) (hkeeps : Site.Keeps id site site') :
    site'.Knows settings cookie p := by
  rcases h with h | ⟨m, hm, hholds⟩
  · exact Or.inl h
  · refine Or.inr ⟨m, hm, hholds.kept ?_ hkeeps⟩
    rintro rfl
    exact hcookie hm

theorem Site.Knows.later {ids : IdSupply} (h : site.Knows settings cookie p)
    (hdrawn : site.ids.drawn ≤ ids.drawn) :
    Site.Knows settings { site with ids } cookie p := by
  rcases h with h | ⟨m, hm, stored, hget, hmirrors⟩
  · exact Or.inl h
  · exact Or.inr ⟨m, hm, stored, hget, hmirrors.later hdrawn⟩

/-! ## Opening a session -/

/-- A visitor's session is open: what was stored mirrors the play. -/
structure Opens (settings : Settings) (site : Site) (cookie : Option String) (p : Play) (id : Nat)
    (stored : StoredGame) (site' : Site) : Prop where
  result : openSession settings site (cookie.bind (cookie? cookieName)) =
    (.ok ⟨id, stored.game, cookie.isNone⟩, site')
  assigns : site.Assigns cookie id
  isWord : isWord id = true
  get? : site'.sessions.get? id = some stored
  mirrors : p.Mirrors ⟨stored.game, site'.ids⟩
  keeps : Site.Keeps id site site'

/-- Who comes for the first time is given a new game under a new number. -/
theorem opens_new (hnames : (settings.seedAgents.map Text.lower).Nodup) (hs : settings.IsWhole)
    (hroom : isWord site.sessions.nextId = true) :
    ∃ stored site',
      Opens settings site none (opening settings) site.sessions.nextId stored site' := by
  have hfst := Game.newGame_fst site.ids hnames
  have htranscript := Game.transcript_newGame settings site.ids
  have hdrawn := Game.drawn_le_addAgents {} settings settings.seedAgents site.ids
  have hmirrors := opening_mirrors hs site.ids
  rcases hnew : Game.newGame settings site.ids with ⟨result, g, ids⟩
  rw [Game.newGame] at hnew
  rw [Game.newGame, hnew] at hfst htranscript hmirrors
  rw [hnew] at hdrawn
  dsimp only at hfst htranscript hmirrors hdrawn
  have hgame : (StoredGame.update {} g.snapshot).game = g := StoredGame.game_update {} g
  refine ⟨.update {} g.snapshot,
    ⟨⟨site.sessions.stored ++ [(site.sessions.nextId, .update {} g.snapshot)]⟩, ids⟩, ?_⟩
  refine ⟨?_, Or.inr ⟨rfl, rfl⟩, hroom, ?_, ?_, hdrawn, Sessions.keeps_append _ _⟩
  · have hcreate := Sessions.create_eq_ok (g := g) site.sessions (by rw [htranscript]; rfl)
    rw [Option.bind_none, openSession]
    dsimp only [sessionNumber?]
    rw [createSession, Game.newGame, hnew, hfst]
    dsimp only
    rw [hcreate, hgame]
    rfl
  · rw [Sessions.get?_append, Sessions.get?_nextId, Option.none_or, if_pos rfl]
  · rw [hgame]
    exact hmirrors

theorem openSession_eq_ok {number : Option String} {n : Int} {g : Game}
    (hnumber : sessionNumber? number = .ok (some n))
    (hload : site.sessions.load? n = .ok (some g)) :
    openSession settings site number = (.ok ⟨n, g, false⟩, site) := by
  simp only [openSession, hnumber, hload]

/-- Who comes again finds its game. -/
theorem opens_again (hword : isWord id = true) (h : site.Holds id p) :
    ∃ stored, Opens settings site (some (sessionPair id)) p id stored site := by
  obtain ⟨stored, hget, hmirrors⟩ := h
  exact ⟨stored, openSession_eq_ok (sessionNumber?_sessionPair hword)
    (Sessions.load?_eq_ok hword hget), Or.inl rfl, hword, hget, hmirrors, Nat.le_refl _, .refl _ _⟩

theorem isWord_of_le {m n : Nat} (h : m ≤ n) (hn : isWord n = true) : isWord m = true :=
  Sessions.isWord_natCast_iff.mpr (Nat.lt_of_le_of_lt h (Sessions.isWord_natCast_iff.mp hn))

theorem Site.Holds.lt_nextId (h : site.Holds id p) : id < site.sessions.nextId := by
  obtain ⟨stored, hget, -⟩ := h
  exact Sessions.lt_nextId (Sessions.mem_ids_of_get? hget)

/-- A visitor that the site knows has its session opened. -/
theorem exists_opens (hnames : (settings.seedAgents.map Text.lower).Nodup)
    (hs : settings.IsWhole) (hroom : isWord site.sessions.nextId = true)
    (h : site.Knows settings cookie p) :
    ∃ id stored site', Opens settings site cookie p id stored site' := by
  rcases h with ⟨rfl, rfl⟩ | ⟨id, rfl, hholds⟩
  · obtain ⟨stored, site', hopens⟩ := opens_new hnames hs hroom
    exact ⟨_, stored, site', hopens⟩
  · have hword := isWord_of_le (Nat.le_of_lt hholds.lt_nextId) hroom
    obtain ⟨stored, hopens⟩ := opens_again hword hholds
    exact ⟨id, stored, site, hopens⟩

/-! ## Visits -/

section Visits

variable {stored : StoredGame} {line : String}

/-- A visitor holds its number's cookie after a page. -/
theorem Site.Assigns.cookie_respondWith (h : site.Assigns cookie id) (g : Game) (page : Text) :
    (respondWith ⟨id, g, cookie.isNone⟩ page).cookie cookie = some (sessionPair id) := by
  rcases h with rfl | ⟨rfl, -⟩
  · rfl
  · exact congrArg some (sentBack_sessionCookie id)

/-- What a request comes to: the page that it should show, the cookie that its visitor holds then,
and the site. -/
structure Served (settings : Settings) (site : Site) (cookie : Option String) (p : Play)
    (errand : Errand) (id : Nat) (visit : Response × Site) : Prop where
  shows_page : visit.1.Shows (errand.page settings p cookie.isNone)
  assigns : site.Assigns cookie id
  holds : visit.1.cookie cookie = cookie ∨ visit.1.cookie cookie = some (sessionPair id)
  knows : visit.2.Knows settings (visit.1.cookie cookie) (errand.play settings p)
  keeps : Site.Keeps id site visit.2

/-- Showing a page changes nothing but what opening the session has changed. -/
theorem showPage_opens (h : Opens settings site cookie p id stored site') (query : String) :
    settle (showPage settings site (cookie.bind (cookie? cookieName)) query) =
      (respondWith ⟨id, stored.game, cookie.isNone⟩
        (if wantsTranscript query then Page.transcript p.game.transcript
          else Page.answer (if cookie.isNone then Reply.welcomeText else welcomeBack)), site') := by
  rw [showPage, h.result, ← h.mirrors.transcript_eq]
  rfl

theorem served_showPage (h : Opens settings site cookie p id stored site') {errand : Errand}
    {page : Text} (hplay : errand.play settings p = p)
    (hpage : errand.page settings p cookie.isNone = .ok page) :
    Served settings site cookie p errand id
      (respondWith ⟨id, stored.game, cookie.isNone⟩ page, site') := by
  have hcookie := h.assigns.cookie_respondWith stored.game page
  refine ⟨?_, h.assigns, Or.inr hcookie, Or.inr ⟨id, hcookie, ?_⟩, h.keeps⟩
  · rw [hpage]
    exact ⟨rfl, rfl⟩
  · rw [hplay]
    exact ⟨stored, h.get?, h.mirrors⟩

theorem runCommand_eq_ok {number : Option String} {opened : Opened} {answer : Text} {q : Play}
    {saved : Sessions} (hopen : openSession settings site number = (.ok opened, site'))
    (hrun : ({ settings } : Interpreter).execute ⟨opened.game, site'.ids⟩ line = (.ok answer, q))
    (hsave : site'.sessions.save? opened.id q.game = .ok (some saved)) :
    runCommand settings site number line =
      (.ok (respondWith opened (Page.answer answer)), ⟨saved, q.ids⟩) := by
  simp only [runCommand, hopen, hrun, hsave, Option.getD_some]

theorem runCommand_eq_error {number : Option String} {opened : Opened} {e : CommandFailure}
    {q : Play} (hopen : openSession settings site number = (.ok opened, site'))
    (hrun : ({ settings } : Interpreter).execute ⟨opened.game, site'.ids⟩ line = (.error e, q)) :
    runCommand settings site number line = (.error (.command e), { site with ids := q.ids }) := by
  simp only [runCommand, hopen, hrun]

/-- In what was stored a line has the answer that it has in the play. -/
theorem Opens.exists_execute (hs : settings.IsWhole)
    (h : Opens settings site cookie p id stored site') (line : String) :
    ∃ q : Play, ({ settings } : Interpreter).execute ⟨stored.game, site'.ids⟩ line =
        ((({ settings } : Interpreter).execute p line).1, q) ∧
      ((Errand.line line).play settings p).Mirrors q ∧ site.ids.drawn ≤ q.ids.drawn := by
  let it : Interpreter := { settings }
  obtain ⟨hsame, hmirrors⟩ : (it.execute p line).1 = (it.execute ⟨stored.game, site'.ids⟩ line).1 ∧
      Play.Mirrors (it.execute p line).2 (it.execute ⟨stored.game, site'.ids⟩ line).2 :=
    Interpreter.execute_mirrors h.mirrors hs line
  have hdrawn := Interpreter.drawn_le_execute it ⟨stored.game, site'.ids⟩ line
  exact ⟨(it.execute ⟨stored.game, site'.ids⟩ line).2, Prod.ext hsame.symm rfl, hmirrors,
    Nat.le_trans h.keeps.drawn hdrawn⟩

/-- A line that has an answer is executed in what was stored, and the result is stored. -/
theorem served_runCommand_ok (hs : settings.IsWhole)
    (h : Opens settings site cookie p id stored site') {answer : Text}
    (hanswer : (({ settings } : Interpreter).execute p line).1 = .ok answer) :
    Served settings site cookie p (.line line) id
      (settle (runCommand settings site (cookie.bind (cookie? cookieName)) line)) := by
  obtain ⟨q, hrun, hmirrors, hdrawn⟩ := h.exists_execute hs line
  rw [hanswer] at hrun
  have hsave := Sessions.save?_eq_ok h.isWord h.get? hmirrors.loneHalves?_eq_none
  have hmodify := Sessions.keeps_modify site'.sessions id (·.update q.game.snapshot)
  have hcookie := h.assigns.cookie_respondWith stored.game (Page.answer answer)
  rw [runCommand_eq_ok h.result hrun hsave]
  refine ⟨?_, h.assigns, Or.inr hcookie,
    Or.inr ⟨id, hcookie, stored.update q.game.snapshot, ?_, ?_⟩,
    hdrawn, h.keeps.sessions.trans hmodify⟩
  · rw [Errand.page, hanswer]
    exact ⟨rfl, rfl⟩
  · exact (Sessions.get?_modify _ id id _).trans (by rw [if_pos rfl, h.get?, Option.map_some])
  · rw [StoredGame.game_update]
    exact hmirrors

/-- A line that has no answer fails, and everything is left as it was. -/
theorem served_runCommand_error (hnames : (settings.seedAgents.map Text.lower).Nodup)
    (hs : settings.IsWhole) (hknows : site.Knows settings cookie p)
    (h : Opens settings site cookie p id stored site') {e : CommandFailure}
    (herror : (({ settings } : Interpreter).execute p line).1 = .error e) :
    Served settings site cookie p (.line line) id
      (settle (runCommand settings site (cookie.bind (cookie? cookieName)) line)) := by
  obtain ⟨q, hrun, -, hdrawn⟩ := h.exists_execute hs line
  rw [herror] at hrun
  have hplay : (Errand.line line).play settings p = p :=
    Interpreter.execute_eq_error hnames (Prod.ext herror rfl)
  rw [runCommand_eq_error h.result hrun]
  refine ⟨?_, h.assigns, Or.inl rfl, ?_, hdrawn, .refl _ _⟩
  · rw [Errand.page, herror]
    rfl
  · rw [hplay]
    exact hknows.later hdrawn

theorem respond_request (settings : Settings) (site : Site) (cookie : Option String)
    (errand : Errand) :
    respond settings site (errand.request cookie) =
      settle
        (match errand with
          | .form => showPage settings site (cookie.bind (cookie? cookieName)) ""
          | .transcript => showPage settings site (cookie.bind (cookie? cookieName)) "transcript"
          | .line command =>
            runCommand settings site (cookie.bind (cookie? cookieName)) command) := by
  have hroot : isRoot "/".toList = true := by decide
  have hpath : (errand.request cookie).path = "/" := by cases errand <;> rfl
  rw [respond, hpath, if_pos hroot]
  cases errand <;> rfl

/-- A visitor that the site knows is served. -/
theorem exists_served (hnames : (settings.seedAgents.map Text.lower).Nodup)
    (hs : settings.IsWhole) (hroom : isWord site.sessions.nextId = true)
    (hknows : site.Knows settings cookie p) (errand : Errand) :
    ∃ id, Served settings site cookie p errand id
      (respond settings site (errand.request cookie)) := by
  obtain ⟨id, stored, site', hopens⟩ := exists_opens hnames hs hroom hknows
  refine ⟨id, ?_⟩
  rw [respond_request]
  cases errand with
  | form =>
    rw [showPage_opens hopens, if_neg (by decide)]
    exact served_showPage hopens rfl rfl
  | transcript =>
    rw [showPage_opens hopens, if_pos (by decide)]
    exact served_showPage hopens rfl rfl
  | line command =>
    cases hanswer : (({ settings } : Interpreter).execute p command).1 with
    | ok answer => exact served_runCommand_ok hs hopens hanswer
    | error e => exact served_runCommand_error hnames hs hknows hopens hanswer

end Visits

end Web

end Discourse
