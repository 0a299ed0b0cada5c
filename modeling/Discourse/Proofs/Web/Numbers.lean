import Discourse.Proofs.Sessions
import Discourse.Web.Server

/-!
# Session numbers

Numbers are given out one after another, and a request is given one at most.

* `Site.Advances`: the next number is the same, or the one after it.
* `advances_respond`: any request.
-/

namespace Discourse.Web

variable {site site' : Site}

/-- At most one number was given out. -/
def Site.Advances (site site' : Site) : Prop :=
  site.sessions.nextId ≤ site'.sessions.nextId ∧
    site'.sessions.nextId ≤ site.sessions.nextId + 1

theorem Site.advances_of_nextId_eq (h : site'.sessions.nextId = site.sessions.nextId) :
    site.Advances site' := by
  rw [Advances, h]
  exact ⟨Nat.le_refl _, Nat.le_succ _⟩

theorem advances_createSession (settings : Settings) (site : Site) :
    site.Advances (createSession settings site).2 := by
  unfold createSession
  split
  · exact Site.advances_of_nextId_eq rfl
  · split
    next => exact Site.advances_of_nextId_eq rfl
    next h =>
      unfold Sessions.create at h
      split at h <;> cases h
      rw [Site.Advances, Sessions.nextId_append]
      exact ⟨Nat.le_succ _, Nat.le_refl _⟩

theorem advances_openSession (settings : Settings) (site : Site) (number : Option String) :
    site.Advances (openSession settings site number).2 := by
  unfold openSession
  split
  · exact Site.advances_of_nextId_eq rfl
  · exact advances_createSession settings site
  · split
    · exact Site.advances_of_nextId_eq rfl
    · exact advances_createSession settings site
    · exact Site.advances_of_nextId_eq rfl

theorem advances_showPage (settings : Settings) (site : Site) (number : Option String)
    (query : String) : site.Advances (showPage settings site number query).2 := by
  have hopen := advances_openSession settings site number
  unfold showPage
  split <;> rename_i h <;> rwa [h] at hopen

theorem advances_runCommand (settings : Settings) (site : Site) (number : Option String)
    (line : String) : site.Advances (runCommand settings site number line).2 := by
  have hopen := advances_openSession settings site number
  unfold runCommand
  split <;> rename_i h <;> rw [h] at hopen
  · exact hopen
  · split
    · exact Site.advances_of_nextId_eq rfl
    · split
      next => exact Site.advances_of_nextId_eq rfl
      next saved hsave =>
        cases saved with
        | none => exact hopen
        | some s =>
          rw [Site.Advances, Option.getD_some, Sessions.nextId_save? hsave]
          exact hopen

theorem advances_respond (settings : Settings) (site : Site) (r : Request) :
    site.Advances (respond settings site r).2 := by
  have hsettle : ∀ visit : Except RequestFailure Response × Site, (settle visit).2 = visit.2 := by
    rintro ⟨_ | _, _⟩ <;> rfl
  have hsame : site.Advances site := Site.advances_of_nextId_eq rfl
  unfold respond
  split
  · unfold respondAtRoot
    dsimp only
    split
    · rw [hsettle]
      exact advances_showPage settings site _ _
    · split
      · rw [hsettle]
        exact advances_runCommand settings site _ _
      · exact hsame
    · exact hsame
  · split <;> exact hsame

end Discourse.Web
