import Discourse.Interpreter
import Discourse.Sessions
import Discourse.Text.FormEncoding
import Discourse.Web.Cookie
import Discourse.Web.Page

/-!
# The web front end

Each visitor has a game of its own, stored under the number that the visitor's cookie carries. A
visitor without such a number, or with one that is not in use, is given a new game. Reading the
page shows the form or the transcript; sending the form executes one command. A request that fails
leaves the stored sessions as they were; identifiers that it has drawn stay drawn.

* `openSession`: the game of a visitor.
* `showPage` and `runCommand`: the two kinds of visit.
* `respond`: any request.
-/

namespace Discourse.Web

/-- What the web front end keeps between requests. -/
structure Site where
  sessions : Sessions := {}
  ids : IdSupply := {}

instance : Inhabited Site := ⟨{}⟩

/-- The method of a request. -/
inductive Method where
  | get
  | post
  | other
  deriving DecidableEq, Repr

/-- The form that comes with a request: the line typed into it, or all its fields encoded. -/
inductive Form where
  | line (command : String)
  | encoded (body : String)
  deriving DecidableEq, Repr

/-- A request. -/
structure Request where
  method : Method
  path : String := "/"
  /-- What is asked for after the question mark. -/
  query : String := ""
  /-- The cookies that the visitor sends. -/
  cookie : Option String := none
  form : Form := .line ""
  deriving DecidableEq, Repr

/-- A response. -/
structure Response where
  status : Nat := 200
  /-- The cookie that the visitor is given. -/
  setCookie : Option String := none
  body : Text
  deriving DecidableEq, Repr

/-- Why a request fails. -/
inductive RequestFailure where
  /-- The cookie is made of digits and yet is no number. -/
  | cookie
  /-- The session cannot be looked up or stored. -/
  | store (e : StoreFailure)
  /-- The command has no answer. -/
  | command (e : CommandFailure)
  deriving DecidableEq, Repr

/-- The name of the cookie. -/
def cookieName : String := "gogar"

/-- What greets a visitor whose game goes on. -/
def welcomeBack : String :=
  "Welcome back!  You can start where you left off,\n" ++
  "or start a new game by typing 'new game'\n"

/-- The cookie that carries a number. -/
def sessionCookie (id : Nat) : String :=
  cookieName ++ "=" ++ toString id ++ "; Path=/; SameSite=lax"

/-! ## Sessions -/

/-- The number in a cookie: none unless the cookie is made of digits, and a failure when some of
them are no decimal digits, or when they are too many. -/
def sessionNumber? (cookie : Option String) : Except RequestFailure (Option Int) :=
  match cookie with
  | none => .ok none
  | some s =>
    if s.toList.isEmpty || !s.toList.all Text.isDigit then .ok none
    else
      match Text.readInteger? s with
      | some n => .ok (some n)
      | none => .error .cookie

/-- A visitor's session: its number, its game, and whether it is new. -/
structure Opened where
  id : Int
  game : Game
  isNew : Bool

/-- A new session. The store is as before when the configured agents collide. -/
def createSession (settings : Settings) (site : Site) : Except RequestFailure Opened × Site :=
  match Game.newGame settings site.ids with
  | (.error e, _, ids) => (.error (.command (.refused e)), { site with ids })
  | (.ok _, game, ids) =>
    match site.sessions.create game with
    | .error e => (.error (.store e), { site with ids })
    | .ok (id, sessions) => (.ok ⟨id, game, true⟩, ⟨sessions, ids⟩)

/-- The session of a visitor, a new one if the cookie carries no number that is in use. -/
def openSession (settings : Settings) (site : Site) (cookie : Option String) :
    Except RequestFailure Opened × Site :=
  match sessionNumber? cookie with
  | .error e => (.error e, site)
  | .ok none => createSession settings site
  | .ok (some id) =>
    match site.sessions.load? id with
    | .error e => (.error (.store e), site)
    | .ok none => createSession settings site
    | .ok (some game) => (.ok ⟨id, game, false⟩, site)

/-! ## Visits -/

/-- The response to a visitor, who is given a cookie when the session is new. -/
def respondWith (opened : Opened) (body : Text) : Response where
  setCookie := if opened.isNew then some (sessionCookie opened.id.toNat) else none
  body := body

/-- Whether the transcript is asked for. -/
def wantsTranscript (query : String) : Bool :=
  (Text.formFields query).any (·.1 == "transcript")

/-- Shows the form or the transcript. -/
def showPage (settings : Settings) (site : Site) (cookie : Option String) (query : String) :
    Except RequestFailure Response × Site :=
  match openSession settings site cookie with
  | (.error e, site) => (.error e, site)
  | (.ok opened, site) =>
    let body :=
      if wantsTranscript query then Page.transcript opened.game.transcript
      else Page.answer (if opened.isNew then Reply.welcomeText else welcomeBack)
    (.ok (respondWith opened body), site)

/-- Executes a command in the visitor's game and stores the game. -/
def runCommand (settings : Settings) (site : Site) (cookie : Option String) (line : String) :
    Except RequestFailure Response × Site :=
  match openSession settings site cookie with
  | (.error e, site) => (.error e, site)
  | (.ok opened, opening) =>
    match ({ settings } : Interpreter).execute ⟨opened.game, opening.ids⟩ line with
    | (.error e, play) => (.error (.command e), { site with ids := play.ids })
    | (.ok answer, play) =>
      match opening.sessions.save? opened.id play.game with
      | .error e => (.error (.store e), { site with ids := play.ids })
      | .ok saved =>
        (.ok (respondWith opened (Page.answer answer)),
          ⟨saved.getD opening.sessions, play.ids⟩)

/-! ## Requests -/

/-- The response to a request that failed. -/
def failed : Response := { status := 500, body := "Internal Server Error" }

/-- The response where there is no page. -/
def notFound : Response := { status := 404, body := "\x7b\"detail\":\"Not Found\"\x7d" }

/-- The response to a method that the page does not have. -/
def notAllowed : Response := { status := 405, body := "\x7b\"detail\":\"Method Not Allowed\"\x7d" }

/-- The most fields that a form may have. -/
def mostFields : Nat := 1000

/-- The response to a form with too many fields. -/
def tooManyFields : Response where
  status := 400
  body := "\x7b\"detail\":\"Too many fields. Maximum number of fields is " ++
    toString mostFields ++ ".\"\x7d"

/-- The response where a slash is missing at the end of the path, or where there are too many. -/
def redirected : Response := { status := 307, body := "" }

/-- The fields of an encoded form. Its bytes are read one character each, before percent signs are
undone. -/
def fieldsOf (body : String) : List (String × String) :=
  Text.formFields (String.ofList ((Text.encode body.toList).map Char.ofNat))

/-- The command in a form: the last one given, or the empty line; none when the form has too many
fields. -/
def Form.command? : Form → Option String
  | .line command => some command
  | .encoded body =>
    let fields := fieldsOf body
    if mostFields < fields.length then none
    else some (((fields.reverse.find? (·.1 == "command")).map Prod.snd).getD "")

/-- The response, with a failure as a response too. -/
def settle (visit : Except RequestFailure Response × Site) : Response × Site :=
  match visit with
  | (.ok response, site) => (response, site)
  | (.error _, site) => (failed, site)

/-- The response to a request for the page. -/
def respondAtRoot (settings : Settings) (site : Site) (r : Request) : Response × Site :=
  let cookie := r.cookie.bind (cookie? cookieName)
  match r.method with
  | .get => settle (showPage settings site cookie r.query)
  | .post =>
    match r.form.command? with
    | some line => settle (runCommand settings site cookie line)
    | none => (tooManyFields, site)
  | .other => (notAllowed, site)

/-- Whether a path leads to the page. A line break may end it. -/
def isRoot (path : List Char) : Bool := path == ['/'] || path == ['/', '\n']

/-- The path without the slashes at its end, or with one there if it has none. -/
def otherEnding (path : List Char) : List Char :=
  if path.getLast? == some '/' then (path.reverse.dropWhile (· == '/')).reverse else path ++ ['/']

/-- The response to a request. There is one page only. -/
def respond (settings : Settings) (site : Site) (r : Request) : Response × Site :=
  if isRoot r.path.toList then respondAtRoot settings site r
  else if isRoot (otherEnding r.path.toList) then (redirected, site)
  else (notFound, site)

end Discourse.Web
