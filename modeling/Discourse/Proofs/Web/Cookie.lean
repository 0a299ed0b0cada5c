import Discourse.Proofs.Sessions
import Discourse.Proofs.Text.Numeral
import Discourse.Web.Visit

/-!
# The cookie of a session

The cookie that is given with a number is sent back without its attributes, and the number is read
from it again.

* `sentBack_sessionCookie`: what is sent back.
* `sessionNumber?_sessionPair`: the number that is read.
* `sessionPair_inj`: different numbers have different cookies.
-/

namespace Discourse.Web

open Text

/-- The cookie of a number as it is sent back. -/
def sessionPair (id : Nat) : String := cookieName ++ "=" ++ toString id

theorem toList_sessionPair (id : Nat) :
    (sessionPair id).toList = "gogar".toList ++ '=' :: Nat.toDigits 10 id := by
  rw [sessionPair, String.toList_append, Nat.toString_eq_repr, Nat.toList_repr]
  rfl

/-- A character that is neither a digit nor in the name does not occur in the cookie. -/
theorem beq_of_mem_sessionPair {id : Nat} {d : Char} (hname : d ∉ "gogar=".toList)
    (hdigit : d.isDigit = false) : ∀ c ∈ (sessionPair id).toList, (c == d) = false := by
  intro c hc
  rw [toList_sessionPair, List.append_cons] at hc
  rw [beq_eq_false_iff_ne]
  rintro rfl
  rcases List.mem_append.mp hc with hc | hc
  · exact hname hc
  · rw [isDigit_toDigits id c hc] at hdigit
    cases hdigit

theorem sentBack_sessionCookie (id : Nat) : sentBack (sessionCookie id) = sessionPair id := by
  have hcookie : (sessionCookie id).toList =
      (sessionPair id).toList ++ "; Path=/; SameSite=lax".toList := String.toList_append
  have hpair : ∀ c ∈ (sessionPair id).toList, (c != ';') = true := fun c hc => by
    rw [bne, beq_of_mem_sessionPair (by decide) rfl c hc, Bool.not_false]
  have hrest : "; Path=/; SameSite=lax".toList.takeWhile (· != ';') = [] := by decide
  rw [sentBack, hcookie, List.takeWhile_append_of_pos hpair, hrest, List.append_nil,
    String.ofList_toList]

/-! ## Reading the number -/

theorem isBlank_of_isDigit {c : Char} (h : c.isDigit = true) : isBlank c = false := by
  have hc := toNat_of_isDigit h
  simp only [isBlank, Bool.and_eq_false_iff, Bool.or_eq_false_iff, decide_eq_false_iff_not,
    beq_eq_false_iff_ne]
  omega

theorem unquote_toDigits (id : Nat) : unquote (Nat.toDigits 10 id) = Nat.toDigits 10 id := by
  have hhead : ((Nat.toDigits 10 id).head? == some '"') = false := by
    rw [beq_eq_false_iff_ne]
    intro he
    cases isDigit_toDigits id '"' (List.mem_of_head? he)
  rw [unquote, hhead, Bool.and_false, Bool.false_and]
  rfl

theorem readPair_sessionPair (id : Nat) :
    readPair (sessionPair id).toList = (cookieName, toString id) := by
  have hsplit : splitFirst '=' (sessionPair id).toList =
      some ("gogar".toList, Nat.toDigits 10 id) := by
    rw [toList_sessionPair]
    rfl
  have hname : String.ofList (stripChars isBlank "gogar".toList) = cookieName := by decide
  rw [readPair, hsplit]
  dsimp only [Option.getD_some]
  rw [hname, stripChars_of_digits (fun _ => isBlank_of_isDigit) (isDigit_toDigits id),
    unquote_toDigits, Nat.toString_eq_repr, ← Nat.toList_repr, String.ofList_toList]

theorem cookie?_sessionPair (id : Nat) :
    cookie? cookieName (sessionPair id) = some (toString id) := by
  rw [cookie?, cookies, splitWhere_of_none (beq_of_mem_sessionPair (by decide) rfl),
    List.map_singleton, readPair_sessionPair]
  simp

/-- The number is read back, if it is one that can be stored. -/
theorem sessionNumber?_sessionPair {id : Nat} (h : isWord id = true) :
    sessionNumber? ((some (sessionPair id)).bind (cookie? cookieName)) = .ok (some (id : Int)) := by
  have hbound : id < 10 ^ maxDigits :=
    calc id < wordBound := Sessions.isWord_natCast_iff.mp h
      _ ≤ 10 ^ 20 := by decide
      _ ≤ 10 ^ maxDigits := Nat.pow_le_pow_right (by decide) (by decide)
  have hdigits : (toString id).toList.all isDigit = true := by
    rw [Nat.toString_eq_repr, Nat.toList_repr, List.all_eq_true]
    intro c hc
    rw [isDigit, isDecimal_of_isDigit (isDigit_toDigits id c hc), Bool.true_or]
  have hempty : (toString id).toList.isEmpty = false := by
    rw [Nat.toString_eq_repr, Nat.toList_repr, List.isEmpty_eq_false_iff]
    exact Nat.toDigits_ne_nil
  rw [Option.bind_some, cookie?_sessionPair, sessionNumber?]
  simp only [hdigits, hempty, readInteger?_repr hbound]
  rfl

/-- Different numbers have different cookies. -/
theorem sessionPair_inj {m n : Nat} : sessionPair m = sessionPair n ↔ m = n := by
  refine ⟨fun h => ?_, fun h => h ▸ rfl⟩
  have hdigits : Nat.toDigits 10 m = Nat.toDigits 10 n := by
    have hlist := congrArg String.toList h
    rw [toList_sessionPair, toList_sessionPair] at hlist
    exact List.tail_eq_of_cons_eq (List.append_cancel_left hlist)
  rw [← Nat.ofDigitChars_ten_toDigits (n := m), hdigits, Nat.ofDigitChars_ten_toDigits]

end Discourse.Web
