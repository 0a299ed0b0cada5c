import Discourse.Proofs.Hall.Material
import Discourse.Proofs.Snapshot.Reloading

/-!
# Games are kept by their snapshots

Whatever was done since the game was empty, the game that its snapshot gives is the game itself:
the agents in their order, each with its identifier, name, depth, sentences, rules and challenges in
their order, and the transcript. Whatever is done next is answered the same on both.

* `Hall.rebuilt_after`: the snapshot, its text, and each agent as a newcomer give back what is
  there.
-/

namespace Discourse.Hall

/-- After any operations the snapshot of the game gives back the game, and so does its text. Each
agent is given back as a newcomer that brings its lists along, whatever the settings then are. -/
theorem rebuilt_after (defaults : Settings) (operations : List Operation)
    (hd : defaults.MadeOf .storable) (ho : ∀ o ∈ operations, o.MadeOf .storable)
    (hids : (Hall.after defaults {} operations).ids.drawn < 2 ^ 128) :
    let g := (Hall.after defaults {} operations).game
    Game.ofSnapshot g.snapshot = g ∧ g.reload = .ok (some g) ∧
      ∀ a ∈ g.agents, ∀ (settings : Settings) (ids : IdSupply),
        (AgentRecord.ofAgent a).recreate settings ids = (.ok a, ids) := by
  intro g
  have hproper : ∀ n ≤ (Hall.after defaults {} operations).ids.drawn, AgentId.IsProper ⟨n⟩ :=
    fun n hn => Nat.lt_of_le_of_lt hn hids
  have hhall := (madeOf_empty (m := .storable)).after hd ho hproper
  refine ⟨Game.ofSnapshot_snapshot g, Game.reload_eq hhall.game, ?_⟩
  intro a _ settings ids
  rw [AgentRecord.recreate_eq, AgentRecord.toAgent_ofAgent]

/-- Ann joins without any rules and challenges Bob, who then leaves. -/
def departure : List Operation :=
  [.join "Ann" { committive := some [], permissive := some [], incompatibilities := some []
                 intelligence := some 3, id := some ⟨7⟩ },
    .join "Bob" {}, .assert 1 "A is red", .challenge 0 1 "A is red", .leave "Bob",
    .record "remove agent Bob" "Agent Bob removed.\n"]

/-- The challenge to Bob is on record when he has left, and it is kept. -/
theorem rebuilt_after_departure :
    let g := (Hall.after {} {} departure).game
    g.agents.map (·.challenges.toList) = [[⟨⟨1⟩, "A is red"⟩]] ∧
      Game.ofSnapshot g.snapshot = g ∧ g.reload = .ok (some g) ∧
      ∀ a ∈ g.agents, ∀ (settings : Settings) (ids : IdSupply),
        (AgentRecord.ofAgent a).recreate settings ids = (.ok a, ids) :=
  ⟨by decide +kernel,
    rebuilt_after {} departure (by decide +kernel) (by decide +kernel) (by decide +kernel)⟩

end Discourse.Hall
