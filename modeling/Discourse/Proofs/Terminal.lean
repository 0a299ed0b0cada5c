import Discourse.Proofs.Game.Beginning
import Discourse.Proofs.Interpreter.Leaving
import Discourse.Proofs.Interpreter.Mirror
import Discourse.Terminal

/-!
# A session at the prompt

The lines are heard up to the first that asks to leave, and nothing else ends the session: no other
line is answered with the goodbye. Where no line asks to leave, the end of the input does.

* `heard`: the lines that are executed after the new game.
* `play_nil`, `play_cons`: one line.
* `play_eq`: the lines at the prompt.
* `ends_when_asked`: a session.
-/

namespace Discourse.Terminal

/-- The lines up to the first that asks to leave; where none does, the visitor is taken to quit
after the last one. -/
def heard : List String → List String
  | [] => ["quit"]
  | line :: lines => if asksToLeave line then [line] else line :: heard lines

variable {it : Interpreter} {p : Play} {line : String} {lines : List String}
  {answer : Text} {answers : List Text}

theorem heard_of_asks (h : asksToLeave line = true) (lines : List String) :
    heard (line :: lines) = [line] := if_pos h

theorem heard_of_not_asks (h : ¬ asksToLeave line = true) (lines : List String) :
    heard (line :: lines) = line :: heard lines := if_neg h

/-! ## One line -/

theorem execute_newGame (hseeds : (it.settings.seedAgents.map Text.lower).Nodup) (p : Play) :
    (it.execute p "new game").1 = .ok (Text.ofString Reply.welcomeText) := by
  have hparse : Command.parse? "new game" = some .newGame := by decide +kernel
  rw [Interpreter.execute_fst, Interpreter.reply, hparse]
  dsimp only [Command.run]
  rw [Command.runNewGame_fst, Game.newGame_fst p.ids hseeds]
  rfl

theorem execute_eq_ok (h : (it.execute p line).1 = .ok answer) :
    it.execute p line = (.ok answer, (it.execute p line).2) := Prod.ext h rfl

theorem play_nil (h : (it.execute p "quit").1 = .ok answer) :
    play it .endOfInput p [] = ⟨prompt ++ answer, .left, (it.execute p "quit").2⟩ := by
  rw [play, execute_eq_ok h]

theorem play_cons (h : (it.execute p line).1 = .ok answer) (ending : Ending)
    (lines : List String) :
    play it ending p (line :: lines) =
      if answer = Reply.goodbyeText then ⟨prompt ++ answer, .left, (it.execute p line).2⟩
      else (play it ending (it.execute p line).2 lines).after (prompt ++ answer) := by
  rw [play, execute_eq_ok h]

theorem run_of_ok (h : (it.execute p "new game").1 = .ok answer) (ending : Ending)
    (lines : List String) :
    run it ending p lines = (play it ending (it.execute p "new game").2 lines).after answer := by
  rw [run, execute_eq_ok h]

theorem exists_answers (h : (it.executeAll p (line :: lines)).1 = answers.map .ok) :
    ∃ answer rest, answers = answer :: rest ∧ (it.execute p line).1 = .ok answer ∧
      (it.executeAll (it.execute p line).2 lines).1 = rest.map .ok := by
  cases answers with
  | nil => cases h
  | cons answer rest =>
    obtain ⟨hanswer, hrest⟩ := List.cons.inj h
    exact ⟨answer, rest, rfl, hanswer, hrest⟩

/-! ## The whole session -/

theorem play_eq (h : (it.executeAll p (heard lines)).1 = answers.map .ok) :
    play it .endOfInput p lines =
      { printed := Text.join (answers.map fun answer => prompt ++ answer)
        outcome := .left
        play := it.playAfter p (heard lines) } := by
  have hjoin : ∀ t, Text.join [t] = t := fun t => Text.ext (List.append_nil t.points)
  induction lines generalizing p answers with
  | nil =>
    obtain ⟨answer, rest, rfl, hanswer, hrest⟩ := exists_answers h
    obtain rfl : rest = [] := List.map_eq_nil_iff.mp hrest.symm
    rw [play_nil hanswer, List.map_singleton, hjoin]
    rfl
  | cons line lines ih =>
    by_cases hask : asksToLeave line = true
    · rw [heard_of_asks hask] at h ⊢
      obtain ⟨answer, rest, rfl, hanswer, hrest⟩ := exists_answers h
      obtain rfl : rest = [] := List.map_eq_nil_iff.mp hrest.symm
      have hgoodbye := hanswer.symm.trans ((it.execute_eq_goodbye_iff p).mpr hask)
      rw [play_cons hanswer, if_pos (Except.ok.inj hgoodbye), List.map_singleton, hjoin]
      rfl
    · rw [heard_of_not_asks hask] at h ⊢
      obtain ⟨answer, rest, rfl, hanswer, hrest⟩ := exists_answers h
      have hother : answer ≠ Reply.goodbyeText := fun hsame =>
        hask ((it.execute_eq_goodbye_iff p).mp (hsame ▸ hanswer))
      rw [play_cons hanswer, if_neg hother, ih hrest]
      rfl

theorem exists_map_ok {results : List (Except CommandFailure Text)}
    (h : ∀ result ∈ results, result.toOption.isSome = true) :
    ∃ answers : List Text, results = answers.map .ok := by
  induction results with
  | nil => exact ⟨[], rfl⟩
  | cons result results ih =>
    obtain ⟨hresult, hresults⟩ := List.forall_mem_cons.mp h
    obtain ⟨answers, rfl⟩ := ih hresults
    cases result with
    | ok answer => exact ⟨answer :: answers, rfl⟩
    | error e => cases hresult

/-- A session at the prompt hears the lines up to the first that asks to leave and none after it. It
prints the greeting, and for each line that it hears the prompt and the answer. -/
theorem ends_when_asked (it : Interpreter) (p : Play) (lines : List String) (answers : List Text)
    (hseeds : (it.settings.seedAgents.map Text.lower).Nodup)
    (hanswers : (it.executeAll (it.execute p "new game").2 (heard lines)).1 = answers.map .ok) :
    run it .endOfInput p lines =
      { printed := Reply.welcomeText ++ Text.join (answers.map fun answer => prompt ++ answer)
        outcome := .left
        play := it.playAfter p ("new game" :: heard lines) } ∧
    ∀ q line, (it.execute q line).1 = .ok (Text.ofString Reply.goodbyeText) ↔
      asksToLeave line = true := by
  refine ⟨?_, fun q line => it.execute_eq_goodbye_iff q⟩
  rw [run_of_ok (execute_newGame hseeds p), play_eq hanswers]
  rfl

/-- Bob is heard, Ann is not. -/
theorem ends_when_asked_exit :
    let lines := ["Bob asserts \"Goodbye\".", " exit ", "Ann asserts A is blue"]
    heard lines = ["Bob asserts \"Goodbye\".", " exit "] ∧
      (run {} .endOfInput {} lines).outcome = .left ∧
      (run {} .endOfInput {} lines).play.game.transcript.map Exchange.input =
        ["new game", "Bob asserts \"Goodbye\".", " exit "] := by
  intro lines
  have hheard : heard lines = ["Bob asserts \"Goodbye\".", " exit "] := by decide +kernel
  let results := (Interpreter.executeAll {} (Interpreter.execute {} {} "new game").2 (heard lines)).1
  obtain ⟨answers, hanswers⟩ : ∃ answers : List Text, results = answers.map .ok :=
    exists_map_ok (by decide +kernel)
  obtain ⟨hrun, -⟩ := ends_when_asked {} {} lines answers (by decide +kernel) hanswers
  have hplay : (run {} .endOfInput {} lines).play =
      Interpreter.playAfter {} {} ["new game", "Bob asserts \"Goodbye\".", " exit "] := by
    rw [hrun, hheard]
  refine ⟨hheard, congrArg Transcript.outcome hrun, ?_⟩
  rw [hplay]
  decide +kernel

end Discourse.Terminal
