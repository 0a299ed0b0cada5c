import Discourse.Proofs.Game.Beginning
import Discourse.Proofs.Text.Words
import Discourse.Proofs.Web.Service

/-!
# Which cookies are answered

A visitor can send any cookie. A numeral of a number in use, in digits of whatever script and with
zeros in front or without, opens the session of that number; almost everything else counts as no
cookie, and the visitor is given a new session. Only where the cookie is made of digits and yet has
no number of 64 bits does the request fail, and then it changes nothing.

* `Text.IsNumeralOf`, `Text.readInteger?_of_digits`: numerals among what is made of digits.
* `Names`, `Refused`: what a cookie says of a session.
* `createSession_eq`, `openSession_of_stale`: a new session.
* `Answered`, `answered_of_opened`: what an errand comes to in an open session.
* `cookies_are_answered_unless_refused`: all cookies.
* `not_every_cookie_is_answered`: a request that fails.
-/

namespace Discourse

/-! ## Numerals -/

namespace Text

/-- The characters are a numeral of the number: decimal digits, of whatever script and with whatever
zeros in front, and not too many of them. -/
structure IsNumeralOf (cs : List Char) (n : Nat) : Prop where
  nonempty : cs ≠ []
  decimal : ∀ c ∈ cs, isDecimal c = true
  few : cs.length ≤ maxDigits
  value : ofDecimals (cs.filterMap decimalValue?) = n

/-- A number as it is written is a numeral of it. -/
theorem isNumeralOf_toDigits {n : Nat} (h : n < 10 ^ maxDigits) :
    IsNumeralOf (Nat.toDigits 10 n) n where
  nonempty := Nat.toDigits_ne_nil
  decimal c hc := isDecimal_of_isDigit (isDigit_toDigits n c hc)
  few := (Nat.length_toDigits_le_iff (by decide) (by decide)).mpr h
  value := by
    rw [filterMap_decimalValue? (isDigit_toDigits n), ofDecimals_map_toNat,
      Nat.ofDigitChars_ten_toDigits]

theorem isSpace_eq_false_of_isDigit {c : Char} (h : isDigit c = true) : isSpace c = false := by
  rw [isSpace, isBlank_of_isDigit h, Bool.false_and]

variable {s : String}

/-- What is made of digits has nothing around or between them, so it is read as a run of digits. -/
theorem readInteger?_of_digits (hne : s.toList ≠ []) (h : ∀ c ∈ s.toList, isDigit c = true) :
    readInteger? s =
      if s.toList.all isDecimal then (readDigits s.toList).toOption.map Int.ofNat else none := by
  have hstrip : stripChars isSpace s.toList = s.toList := by
    refine stripChars_of_isTrimmed ⟨fun c hc => ?_, fun c hc => ?_⟩
    · exact isSpace_eq_false_of_isDigit (h c (List.mem_of_head? hc))
    · exact isSpace_eq_false_of_isDigit (h c (List.mem_of_getLast? hc))
  have hsign : splitSign s.toList = (false, s.toList) := by
    unfold splitSign
    split
    next hs => exact absurd (h '-' (hs ▸ List.mem_cons_self)) (by decide)
    next hs => exact absurd (h '+' (hs ▸ List.mem_cons_self)) (by decide)
    next => rfl
  have hgroups : joinDigitGroups? s.toList = some s.toList := by
    have hcut : ∀ c ∈ s.toList, (c == '_') = false := by
      intro c hc
      rw [beq_eq_false_iff_ne]
      rintro rfl
      exact absurd (h '_' hc) (by decide)
    rw [joinDigitGroups?, splitWhere_of_none hcut]
    simp [hne]
  rw [readInteger?, hstrip, hsign]
  dsimp only
  rw [hgroups]
  dsimp only
  split
  · cases readDigits s.toList <;> rfl
  · rfl

theorem readDigits_of_isNumeralOf {cs : List Char} {n : Nat} (h : IsNumeralOf cs n) :
    readDigits cs = .ok n := by
  have hlength : (cs.filterMap decimalValue?).length = cs.length :=
    List.filterMap_length_eq_length.mpr h.decimal
  rw [readDigits, hlength, if_pos h.few, h.value]

end Text

namespace Web

open Text (IsNumeralOf isDigit isDecimal maxDigits)

variable {settings : Settings} {site opening : Site} {value header : Option String} {id : Nat}
  {errand : Errand}

/-! ## What a cookie says -/

/-- The value of the cookie is a numeral of the number. -/
def Names (value : Option String) (id : Nat) : Prop :=
  ∃ s, value = some s ∧ IsNumeralOf s.toList id

/-- The value is made of digits, and yet no number of 64 bits has it for a numeral: some digit is
not decimal, there are too many digits, or the number is too large. -/
def Refused (value : Option String) : Prop :=
  ∃ s, value = some s ∧ s.toList ≠ [] ∧ (∀ c ∈ s.toList, isDigit c = true) ∧
    ∀ n, IsNumeralOf s.toList n → wordBound ≤ n

theorem sessionNumber?_of_digits {s : String} (hne : s.toList ≠ [])
    (h : ∀ c ∈ s.toList, isDigit c = true) :
    sessionNumber? (some s) =
      match Text.readInteger? s with
      | some n => .ok (some n)
      | none => .error .cookie := by
  have hempty : s.toList.isEmpty = false := List.isEmpty_eq_false_iff.mpr hne
  have hall : s.toList.all isDigit = true := List.all_eq_true.mpr h
  rw [sessionNumber?, hempty, hall]
  rfl

theorem sessionNumber?_of_names (h : Names value id) :
    sessionNumber? value = .ok (some (id : Int)) := by
  obtain ⟨s, rfl, hs⟩ := h
  have hdigits : ∀ c ∈ s.toList, isDigit c = true := fun c hc => by
    rw [isDigit, hs.decimal c hc, Bool.true_or]
  have hread : Text.readInteger? s = some (id : Int) := by
    rw [Text.readInteger?_of_digits hs.nonempty hdigits, if_pos (List.all_eq_true.mpr hs.decimal),
      Text.readDigits_of_isNumeralOf hs]
    rfl
  rw [sessionNumber?_of_digits hs.nonempty hdigits, hread]

theorem sessionNumber?_of_no_numeral {s : String} (hne : s.toList ≠ [])
    (h : ∀ c ∈ s.toList, isDigit c = true) (hnone : ∀ n, ¬ IsNumeralOf s.toList n) :
    sessionNumber? (some s) = .error .cookie := by
  have hread : Text.readInteger? s = none := by
    rw [Text.readInteger?_of_digits hne h]
    split
    next hdecimal =>
      have hlength : (s.toList.filterMap Text.decimalValue?).length = s.toList.length :=
        List.filterMap_length_eq_length.mpr (List.all_eq_true.mp hdecimal)
      have hmany : ¬ s.toList.length ≤ maxDigits := fun hfew =>
        hnone _ ⟨hne, List.all_eq_true.mp hdecimal, hfew, rfl⟩
      rw [Text.readDigits, hlength, if_neg hmany]
      rfl
    next => rfl
  rw [sessionNumber?_of_digits hne h, hread]

/-- A cookie has a number, or it is made of digits without having one, or it counts as none. -/
theorem sessionNumber?_cases (value : Option String) :
    (∃ n, Names value n) ∨
      (sessionNumber? value = .error .cookie ∧ Refused value) ∨
      (sessionNumber? value = .ok none ∧ ¬ Refused value) := by
  cases value with
  | none => exact Or.inr (Or.inr ⟨rfl, fun ⟨_, hs, _⟩ => nomatch hs⟩)
  | some s =>
    by_cases hdigits : s.toList ≠ [] ∧ ∀ c ∈ s.toList, isDigit c = true
    · obtain ⟨hne, hall⟩ := hdigits
      by_cases hnumeral : ∃ n, IsNumeralOf s.toList n
      · obtain ⟨n, hn⟩ := hnumeral
        exact Or.inl ⟨n, s, rfl, hn⟩
      · have hnone : ∀ n, ¬ IsNumeralOf s.toList n := not_exists.mp hnumeral
        exact Or.inr (Or.inl ⟨sessionNumber?_of_no_numeral hne hall hnone, s, rfl, hne, hall,
          fun n hn => absurd hn (hnone n)⟩)
    · refine Or.inr (Or.inr ⟨?_, fun ⟨_, hs, hne, hall, _⟩ => ?_⟩)
      · have hguard : (s.toList.isEmpty || !s.toList.all isDigit) = true := by
          by_contra hguard
          refine hdigits ?_
          simpa using hguard
        rw [sessionNumber?, if_pos hguard]
      · cases hs
        exact hdigits ⟨hne, hall⟩

/-! ## Opening a session -/

/-- Configured agents whose names differ begin a new game under the next number. -/
theorem createSession_eq (hnames : (settings.seedAgents.map Text.lower).Nodup) (site : Site) :
    createSession settings site =
      (.ok ⟨site.sessions.nextId, (Game.newGame settings site.ids).2.1, true⟩,
        ⟨⟨site.sessions.stored ++ [(site.sessions.nextId,
          StoredGame.update {} (Game.newGame settings site.ids).2.1.snapshot)]⟩,
          (Game.newGame settings site.ids).2.2⟩) := by
  have hfst := Game.newGame_fst site.ids hnames
  have htranscript := Game.transcript_newGame settings site.ids
  rcases hnew : Game.newGame settings site.ids with ⟨result, g, ids⟩
  rw [hnew] at hfst htranscript
  dsimp only at hfst htranscript
  have hcreate := Sessions.create_eq_ok (g := g) site.sessions (by rw [htranscript]; rfl)
  rw [createSession, hnew, hfst]
  dsimp only
  rw [hcreate]

theorem openSession_of_unknown {n : Int} (hnumber : sessionNumber? value = .ok (some n))
    (hload : site.sessions.load? n = .ok none) :
    openSession settings site value = createSession settings site := by
  unfold openSession
  split
  next h => cases hnumber.symm.trans h
  next h => rfl
  next m h =>
    cases hnumber.symm.trans h
    rw [hload]

theorem openSession_of_beyond {n : Int} (hnumber : sessionNumber? value = .ok (some n))
    {e : StoreFailure} (hload : site.sessions.load? n = .error e) :
    openSession settings site value = (.error (.store e), site) := by
  unfold openSession
  split
  next h => cases hnumber.symm.trans h
  next h => cases hnumber.symm.trans h
  next m h =>
    cases hnumber.symm.trans h
    rw [hload]

/-- A cookie without a number in use is as good as none, unless it is refused. -/
theorem openSession_of_stale (hrefused : ¬ Refused value)
    (hstale : ∀ id, Names value id → site.sessions.get? id = none) :
    openSession settings site value = createSession settings site := by
  rcases sessionNumber?_cases value with ⟨n, hn⟩ | ⟨-, h⟩ | ⟨h, -⟩
  · have hword : isWord n = true := by
      rw [Sessions.isWord_natCast_iff]
      by_contra hlarge
      obtain ⟨s, rfl, hs⟩ := hn
      refine hrefused ⟨s, rfl, hs.nonempty, fun c hc => ?_, fun m hm => ?_⟩
      · rw [isDigit, hs.decimal c hc, Bool.true_or]
      · rw [← hs.value, hm.value] at hlarge
        exact Nat.le_of_not_lt hlarge
    have hload : site.sessions.load? n = .ok none := by
      rw [Sessions.load?, if_pos hword, hstale n hn, Option.map_none]
    exact openSession_of_unknown (sessionNumber?_of_names hn) hload
  · exact absurd h hrefused
  · rw [openSession, h]

/-- A refused cookie fails before anything is stored or drawn. -/
theorem openSession_of_refused (settings : Settings) (site : Site) (h : Refused value) :
    ∃ e, openSession settings site value = (.error e, site) := by
  rcases sessionNumber?_cases value with ⟨n, hn⟩ | ⟨herror, -⟩ | ⟨-, hnot⟩
  · have hword : isWord (n : Int) = false := by
      rw [Bool.eq_false_iff, Ne, Sessions.isWord_natCast_iff]
      obtain ⟨s, hs, -, -, hlarge⟩ := h
      obtain ⟨s', hs', hnumeral⟩ := hn
      cases hs.symm.trans hs'
      exact Nat.not_lt.mpr (hlarge n hnumeral)
    have hload : site.sessions.load? n = .error (.idOutOfRange n) := by
      rw [Sessions.load?, hword]
      rfl
    exact ⟨.store (.idOutOfRange n), openSession_of_beyond (sessionNumber?_of_names hn) hload⟩
  · exact ⟨.cookie, by rw [openSession, herror]⟩
  · exact absurd h hnot

/-! ## Running the errand -/

/-- The line that is to be executed has an answer, and what was said by then can be stored. -/
def Errand.GoesWell (settings : Settings) (p : Play) : Errand → Prop
  | line command =>
    (∃ answer, (({ settings } : Interpreter).execute p command).1 = .ok answer) ∧
      StoredGame.loneHalves? (({ settings } : Interpreter).execute p command).2.game.transcript =
        none
  | _ => True

/-- The errand was run in the session of the number, which had come to the play: the response has
the page, and a cookie if the session is new; the session holds the game after the errand, and no
other session has changed. -/
structure Answered (settings : Settings) (site : Site) (errand : Errand) (id : Nat) (p : Play)
    (isNew : Bool) (visit : Response × Site) : Prop where
  status : visit.1.status = 200
  body : errand.page settings p isNew = .ok visit.1.body
  setCookie : visit.1.setCookie = if isNew then some (sessionCookie id) else none
  session : ∃ stored, visit.2.sessions.get? id = some stored ∧
    stored.game = (errand.play settings p).game
  others : Sessions.Keeps id site.sessions visit.2.sessions

/-- Whatever session is opened, the errand is run there. -/
theorem answered_of_opened {stored : StoredGame} {isNew : Bool}
    (hopen : openSession settings site (header.bind (cookie? cookieName)) =
      (.ok ⟨id, stored.game, isNew⟩, opening))
    (hword : isWord id = true) (hget : opening.sessions.get? id = some stored)
    (hkeeps : Sessions.Keeps id site.sessions opening.sessions)
    (hwell : errand.GoesWell settings ⟨stored.game, opening.ids⟩) :
    Answered settings site errand id ⟨stored.game, opening.ids⟩ isNew
      (respond settings site (errand.request header)) := by
  rw [respond_request]
  cases errand with
  | form =>
    dsimp only
    rw [showPage, hopen]
    exact ⟨rfl, rfl, rfl, ⟨stored, hget, rfl⟩, hkeeps⟩
  | transcript =>
    dsimp only
    rw [showPage, hopen]
    exact ⟨rfl, rfl, rfl, ⟨stored, hget, rfl⟩, hkeeps⟩
  | line command =>
    obtain ⟨⟨answer, hanswer⟩, hwhole⟩ := hwell
    rcases hrun : ({ settings } : Interpreter).execute ⟨stored.game, opening.ids⟩ command with
      ⟨result, q⟩
    rw [hrun] at hanswer hwhole
    dsimp only at hanswer hwhole
    subst hanswer
    have hsave := Sessions.save?_eq_ok hword hget hwhole
    have hmodify := Sessions.keeps_modify opening.sessions id (·.update q.game.snapshot)
    dsimp only
    rw [runCommand_eq_ok hopen hrun hsave]
    refine ⟨rfl, by rw [Errand.page, hrun]; rfl, rfl,
      ⟨stored.update q.game.snapshot, ?_, ?_⟩, hkeeps.trans hmodify⟩
    · exact (Sessions.get?_modify _ id id _).trans (by rw [if_pos rfl, hget, Option.map_some])
    · rw [StoredGame.game_update, Errand.play, hrun]

theorem respond_of_refused (h : Refused (header.bind (cookie? cookieName))) :
    respond settings site (errand.request header) = (failed, site) := by
  obtain ⟨e, hopen⟩ := openSession_of_refused settings site h
  rw [respond_request]
  cases errand with
  | form => simp only [showPage, hopen, settle]
  | transcript => simp only [showPage, hopen, settle]
  | line command => simp only [runCommand, hopen, settle]

/-! ## All cookies -/

/-- Let the configured agents have different names, and let there be room for one more session. A
cookie that is a numeral of a number in use has the errand run in the session of that number. Any
other cookie, and none, has it run in a new game under a number that was not in use, and the visitor
is given the cookie of it. The exception is a cookie that is made of digits and has no number of 64
bits; then the request fails and the site stays as it was. -/
theorem cookies_are_answered_unless_refused
    (hnames : (settings.seedAgents.map Text.lower).Nodup)
    (hroom : isWord site.sessions.nextId = true) (header : Option String) (errand : Errand) :
    let value := header.bind (cookie? cookieName)
    let visit := respond settings site (errand.request header)
    let begun := Game.newGame settings site.ids
    (∀ id stored, Names value id → site.sessions.get? id = some stored →
      errand.GoesWell settings ⟨stored.game, site.ids⟩ →
      Answered settings site errand id ⟨stored.game, site.ids⟩ false visit) ∧
    (¬ Refused value → (∀ id : Nat, Names value id → site.sessions.get? id = none) →
      errand.GoesWell settings ⟨begun.2.1, begun.2.2⟩ →
      site.sessions.get? site.sessions.nextId = none ∧
      Answered settings site errand site.sessions.nextId ⟨begun.2.1, begun.2.2⟩ true visit) ∧
    (Refused value → visit = (failed, site)) := by
  intro value visit begun
  refine ⟨?_, ?_, respond_of_refused⟩
  · intro id stored hvalue hget hwell
    have hword : isWord id = true :=
      isWord_of_le (Nat.le_of_lt (Sessions.lt_nextId (Sessions.mem_ids_of_get? hget))) hroom
    have hopen : openSession settings site value = (.ok ⟨id, stored.game, false⟩, site) :=
      openSession_eq_ok (sessionNumber?_of_names hvalue) (Sessions.load?_eq_ok hword hget)
    exact answered_of_opened hopen hword hget (.refl id site.sessions) hwell
  · intro hrefused hstale hwell
    have hgame : (StoredGame.update {} begun.2.1.snapshot).game = begun.2.1 :=
      StoredGame.game_update {} begun.2.1
    have hopen : openSession settings site value =
        (.ok ⟨site.sessions.nextId, (StoredGame.update {} begun.2.1.snapshot).game, true⟩, _) :=
      (openSession_of_stale hrefused hstale).trans
        ((createSession_eq hnames site).trans (by rw [hgame]))
    refine ⟨Sessions.get?_nextId site.sessions, ?_⟩
    rw [← hgame] at hwell ⊢
    refine answered_of_opened hopen hroom ?_ (Sessions.keeps_append _ _) hwell
    rw [Sessions.get?_append, Sessions.get?_nextId, Option.none_or, if_pos rfl]

/-- A site that somebody has visited once. -/
def visitedOnce : Site := (respond {} {} (Errand.form.request none)).2

/-- The session of the visitor. -/
def firstSession : StoredGame := (visitedOnce.sessions.get? 1).getD {}

/-- With a zero in front the cookie still opens the session; with another number it opens a new one,
and with a superscript it is refused. -/
theorem cookies_are_answered_unless_refused_visitedOnce :
    Answered {} visitedOnce (.line "add agent Cat") 1
        ⟨firstSession.game, visitedOnce.ids⟩ false
        (respond {} visitedOnce ((Errand.line "add agent Cat").request (some "gogar=01"))) ∧
      Answered {} visitedOnce .transcript 2
        ⟨(Game.newGame {} visitedOnce.ids).2.1, (Game.newGame {} visitedOnce.ids).2.2⟩ true
        (respond {} visitedOnce (Errand.transcript.request (some "gogar=7"))) ∧
      respond {} visitedOnce (Errand.form.request (some "gogar=²")) = (failed, visitedOnce) := by
  have hnames : ((({} : Settings).seedAgents).map Text.lower).Nodup := by decide +kernel
  have hroom : isWord visitedOnce.sessions.nextId = true := by decide +kernel
  have hall := cookies_are_answered_unless_refused hnames hroom
  refine ⟨?_, ?_, ?_⟩
  · have hcookie : (some "gogar=01").bind (cookie? cookieName) = some "01" := by decide +kernel
    have hget : visitedOnce.sessions.get? 1 = some firstSession := by
      have hsome : (visitedOnce.sessions.get? 1).isSome = true := by decide +kernel
      obtain ⟨stored, hstored⟩ := Option.isSome_iff_exists.mp hsome
      rw [firstSession, hstored, Option.getD_some]
    have hwell : (Errand.line "add agent Cat").GoesWell {}
        ⟨firstSession.game, visitedOnce.ids⟩ := by
      exact ⟨⟨"Agent Cat added.\n", by decide +kernel⟩, by decide +kernel⟩
    have hdecimal : "01".toList.all isDecimal = true := by decide +kernel
    have hone : IsNumeralOf "01".toList 1 :=
      ⟨by decide, List.all_eq_true.mp hdecimal, by decide, by decide +kernel⟩
    exact (hall (some "gogar=01") _).1 1 firstSession (hcookie ▸ ⟨"01", rfl, hone⟩) hget hwell
  · have hcookie : (some "gogar=7").bind (cookie? cookieName) = some "7" := by decide +kernel
    have hbound : 7 < 10 ^ maxDigits :=
      Nat.lt_of_lt_of_le (by decide : 7 < 10 ^ 1) (Nat.pow_le_pow_right (by decide) (by decide))
    have hseven : IsNumeralOf "7".toList 7 := Text.isNumeralOf_toDigits hbound
    refine ((hall (some "gogar=7") .transcript).2.1 ?_ ?_ trivial).2
    · rw [hcookie]
      rintro ⟨s, hs, -, -, hlarge⟩
      cases hs
      exact absurd (hlarge 7 hseven) (by decide)
    · rw [hcookie]
      rintro id ⟨s, hs, hnumeral⟩
      cases hs
      rw [← hnumeral.value]
      decide +kernel
  · have hcookie : (some "gogar=²").bind (cookie? cookieName) = some "²" := by decide +kernel
    have hdigits : "²".toList.all isDigit = true := by decide +kernel
    have hsuperscript : isDecimal '²' = false := by decide +kernel
    refine (hall (some "gogar=²") .form).2.2 ?_
    rw [hcookie]
    refine ⟨"²", rfl, by decide, List.all_eq_true.mp hdigits, fun n hn => ?_⟩
    exact absurd (hn.decimal '²' (by decide)) (Bool.eq_false_iff.mp hsuperscript)

/-- A number that is too large for 64 bits is not answered with a new session. -/
theorem not_every_cookie_is_answered :
    ¬ ∀ (settings : Settings) (site : Site) (header : Option String) (errand : Errand),
      (settings.seedAgents.map Text.lower).Nodup → isWord site.sessions.nextId = true →
      (∀ p, errand.GoesWell settings p) →
      (respond settings site (errand.request header)).1.status = 200 := by
  intro hall
  have hstatus := hall {} {} (some "gogar=9223372036854775808") .form (by decide +kernel)
    (by decide +kernel) fun _ => trivial
  exact absurd hstatus (by decide +kernel)

end Web

end Discourse
