import Discourse.Interpreter
import Discourse.Proofs.Command.Material

/-!
# Executing a line

A line is answered in words, or it has no answer; only in the first case is it recorded.

* `answerOf`: the answer in words.
* `Interpreter.execute_fst`, `Interpreter.execute_snd`: the answer to a line, and the play after it.
* `Interpreter.agents_execute`, `Interpreter.agents_execute_of_parse?`: recording changes nobody.
* `Interpreter.drawn_le_execute`: identifiers are only ever drawn.
-/

namespace Discourse

/-- What is answered at a width, or why nothing is. -/
def answerOf (width : Int) (r : Except CommandFailure Reply) : Except CommandFailure Text :=
  r.map (Reply.text width)

namespace Interpreter

theorem execute_fst (it : Interpreter) (p : Play) (line : String) :
    (it.execute p line).1 = answerOf it.width (it.reply p line).1 := by
  unfold execute
  split <;> rename_i h <;> rw [h] <;> rfl

theorem execute_snd (it : Interpreter) (p : Play) (line : String) :
    (it.execute p line).2 =
      match answerOf it.width (it.reply p line).1 with
      | .ok t => recorded line t (it.reply p line).2
      | .error _ => (it.reply p line).2 := by
  unfold execute
  split <;> rename_i h <;> rw [h] <;> rfl

theorem agents_execute (it : Interpreter) (p : Play) (line : String) :
    (it.execute p line).2.game.agents = (it.reply p line).2.game.agents := by
  rw [execute_snd]
  cases answerOf it.width (it.reply p line).1 <;> rfl

/-- Everybody after a line that is a command. -/
theorem agents_execute_of_parse? (it : Interpreter) (p : Play) {line : String} {c : Command}
    (h : Command.parse? line = some c) :
    (it.execute p line).2.game.agents = (c.run it.settings p).2.game.agents := by
  rw [agents_execute, reply, h]

theorem drawn_le_reply (it : Interpreter) (p : Play) (line : String) :
    p.ids.drawn ≤ (it.reply p line).2.ids.drawn := by
  unfold reply
  split
  · exact Command.drawn_le_run it.settings p _
  · exact Nat.le_refl _

theorem drawn_le_execute (it : Interpreter) (p : Play) (line : String) :
    p.ids.drawn ≤ (it.execute p line).2.ids.drawn := by
  have hreply := drawn_le_reply it p line
  rw [execute_snd]
  cases answerOf it.width (it.reply p line).1 <;> exact hreply

end Interpreter

end Discourse
