import Discourse.Web.Server

/-!
# Visitors

Those who visit the page, one after another. A visitor sends back the cookie that it was given
last, and nothing if it was given none.

* `Errand`: what a visitor comes for.
* `Scene`: a site, and the cookies that its visitors hold.
* `Scene.visit` and `Scene.after`: one visit, and several.
* `aloneAfter`: what a visitor's lines come to without a site.
-/

namespace Discourse.Web

/-- What a visitor comes for. -/
inductive Errand where
  /-- To see the form. -/
  | form
  /-- To see the transcript. -/
  | transcript
  /-- To have a line executed. -/
  | line (command : String)
  deriving DecidableEq, Repr

/-- The request that goes with an errand. -/
def Errand.request (cookie : Option String) : Errand → Request
  | form => { method := .get, cookie }
  | transcript => { method := .get, query := "transcript", cookie }
  | line command => { method := .post, cookie, form := .line command }

/-- What is sent back of a cookie that was given: what stands before its attributes. -/
def sentBack (setCookie : String) : String :=
  String.ofList (setCookie.toList.takeWhile (· != ';'))

/-- The cookie that a visitor holds after a response. -/
def Response.cookie (r : Response) (held : Option String) : Option String :=
  (r.setCookie.map sentBack).or held

/-- A visit. -/
structure Visit (Visitor : Type) where
  visitor : Visitor
  errand : Errand
  deriving DecidableEq, Repr

/-- A site, and the cookies that its visitors hold. -/
structure Scene (Visitor : Type) where
  site : Site := {}
  cookies : Visitor → Option String := fun _ => none

namespace Scene

variable {Visitor : Type} [DecidableEq Visitor]

/-- The response to a visit, and the scene after it. -/
def visit (settings : Settings) (s : Scene Visitor) (v : Visit Visitor) :
    Response × Scene Visitor :=
  let (response, site) := respond settings s.site (v.errand.request (s.cookies v.visitor))
  (response,
    { site
      cookies := fun c =>
        if c = v.visitor then response.cookie (s.cookies c) else s.cookies c })

/-- The scene after the visits. -/
def after (settings : Settings) (s : Scene Visitor) (visits : List (Visit Visitor)) :
    Scene Visitor :=
  visits.foldl (fun s v => (s.visit settings v).2) s

/-- The stored game of a visitor, if it has one. -/
def session? (s : Scene Visitor) (c : Visitor) : Option StoredGame :=
  match sessionNumber? ((s.cookies c).bind (cookie? cookieName)) with
  | .ok (some id) => s.site.sessions.get? id
  | _ => none

end Scene

/-! ## Alone -/

/-- A new game, and the identifiers that it leaves. -/
def opening (settings : Settings) : Play :=
  ⟨(Game.newGame settings {}).2.1, (Game.newGame settings {}).2.2⟩

namespace Errand

/-- What an errand does to a play that is kept without a site. -/
def play (settings : Settings) (p : Play) : Errand → Play
  | line command => (({ settings } : Interpreter).execute p command).2
  | _ => p

/-- The page that a visitor should see who has come to a play, unless the line has no answer. -/
def page (settings : Settings) (p : Play) (isNew : Bool) : Errand → Except CommandFailure Text
  | form => .ok (Page.answer (if isNew then Reply.welcomeText else welcomeBack))
  | transcript => .ok (Page.transcript p.game.transcript)
  | line command => (({ settings } : Interpreter).execute p command).1.map Page.answer

/-- The line that is executed on an errand, if there is one. -/
def line? : Errand → Option String
  | line command => some command
  | _ => none

end Errand

/-- Whether a response shows the page; where there is none, the request has failed. -/
def Response.Shows (r : Response) : Except CommandFailure Text → Prop
  | .ok page => r.status = 200 ∧ r.body = page
  | .error _ => r = failed

section

variable {Visitor : Type} [DecidableEq Visitor]

/-- The lines that a visitor has had executed. -/
def linesOf (c : Visitor) (visits : List (Visit Visitor)) : List String :=
  visits.filterMap fun v => if v.visitor = c then v.errand.line? else none

/-- The play that a visitor would have come to alone, with an interpreter that keeps a new game. -/
def aloneAfter (settings : Settings) (c : Visitor) (visits : List (Visit Visitor)) : Play :=
  ({ settings } : Interpreter).playAfter (opening settings) (linesOf c visits)

end

end Discourse.Web
