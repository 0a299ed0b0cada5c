import Discourse.Proofs.Command.Grammar
import Discourse.Proofs.Game.Newcomers
import Discourse.Proofs.Interpreter.Line
import Discourse.Proofs.Listing.Whole
import Discourse.Proofs.Renaming.Game

/-!
# Plays that mirror each other

Two plays whose games differ in nothing but identifiers go on alike, even if their supplies have
handed out different numbers of them: each line gets the same answer in both, and afterwards the
games differ in nothing but identifiers again.

* `Play.Mirrors`: the games of two plays are the same up to identifiers that were drawn.
* `Play.Mirrors.addAgent`: newcomers without an identifier of their own.
* `Interpreter.execute_mirrors`: a line.
-/

namespace Discourse

open Equiv (Perm)

/-! ## Identifiers drawn so far -/

/-- Texts that consist of characters, and identifiers up to the given number. -/
def Material.upTo (drawn : Nat) : Material where
  text t := t.isWhole = true
  id id := id.number ≤ drawn
  said t := t.isWhole = true

theorem Material.upTo_within {m n : Nat} (h : m ≤ n) : (upTo m).Within (upTo n) where
  text _ ht := ht
  id _ hid := Nat.le_trans hid h
  depth _ hn := hn
  said _ ht := ht

/-- The texts of the settings consist of characters. -/
def Settings.IsWhole (s : Settings) : Prop := s.MadeOf { text := fun t => t.isWhole = true }

instance (s : Settings) : Decidable s.IsWhole :=
  have : DecidablePred fun t : Text => t.isWhole = true := fun t =>
    inferInstanceAs (Decidable (t.isWhole = true))
  inferInstanceAs (Decidable (s.MadeOf _))

theorem Settings.IsWhole.madeOf {s : Settings} (h : s.IsWhole) (drawn : Nat) :
    s.MadeOf (.upTo drawn) :=
  ⟨trivial, h.committive, h.permissive, h.incompatibilities, h.seedAgents⟩

/-! ## Mirrors -/

/-- The games are the same up to a renaming that takes the identifiers drawn for the first one to
identifiers drawn for the second one. In the first game there are no others. -/
structure Play.Mirrors (p q : Play) : Prop where
  madeOf : p.game.MadeOf (.upTo p.ids.drawn)
  renamed : ∃ σ : Perm AgentId, q.game = p.game.rename σ ∧
    ∀ id : AgentId, id.number ≤ p.ids.drawn → (σ id).number ≤ q.ids.drawn

namespace Play

variable {p q : Play}

/-- Nothing is lost when the second supply goes on. -/
theorem Mirrors.later {ids : IdSupply} (h : p.Mirrors q) (hids : q.ids.drawn ≤ ids.drawn) :
    p.Mirrors ⟨q.game, ids⟩ := by
  obtain ⟨σ, hgame, hdrawn⟩ := h.renamed
  exact ⟨h.madeOf, σ, hgame, fun id hid => Nat.le_trans (hdrawn id hid) hids⟩

/-- The tables can be emptied. -/
theorem Mirrors.emptied (h : p.Mirrors q) : Mirrors ⟨{}, p.ids⟩ ⟨{}, q.ids⟩ := by
  obtain ⟨σ, -, hdrawn⟩ := h.renamed
  exact ⟨Game.madeOf_empty, σ, rfl, hdrawn⟩

/-- Where nothing was drawn, nothing has to be renamed. -/
theorem mirrors_empty (ids : IdSupply) : Mirrors {} ⟨{}, ids⟩ := by
  refine ⟨Game.madeOf_empty, Equiv.refl AgentId, rfl, ?_⟩
  intro id hid
  exact Nat.le_trans hid (Nat.zero_le _)

/-- A renaming can be made to take the next identifier of the first supply to that of the second
one. -/
theorem exists_renaming {g : Game} {ids ids' : IdSupply} {σ : Perm AgentId}
    (hg : g.MadeOf (.upTo ids.drawn))
    (hσ : ∀ id : AgentId, id.number ≤ ids.drawn → (σ id).number ≤ ids'.drawn) :
    ∃ τ : Perm AgentId, g.rename τ = g.rename σ ∧ τ ids.draw.1 = ids'.draw.1 ∧
      ∀ id : AgentId, id.number ≤ ids.draw.2.drawn → (τ id).number ≤ ids'.draw.2.drawn := by
  have hold : ∀ id : AgentId, id.number ≤ ids.drawn →
      Equiv.swap (σ ids.draw.1) ids'.draw.1 (σ id) = σ id := by
    intro id hid
    have hfirst : σ id ≠ σ ids.draw.1 := by
      intro he
      have hnumber : id.number = ids.drawn + 1 := congrArg AgentId.number (σ.injective he)
      omega
    have hsecond : σ id ≠ ids'.draw.1 := by
      intro he
      have hnumber : (σ id).number = ids'.drawn + 1 := congrArg AgentId.number he
      have hle := hσ id hid
      omega
    exact Equiv.swap_apply_of_ne_of_ne hfirst hsecond
  refine ⟨σ.trans (Equiv.swap (σ ids.draw.1) ids'.draw.1), ?_, ?_, ?_⟩
  · exact Game.rename_congr _ hg fun id hid => hold id hid
  · exact Equiv.swap_apply_left _ _
  · intro id hid
    rcases Nat.le_or_eq_of_le_succ hid with hid | hid
    · rw [Equiv.trans_apply, hold id hid]
      exact Nat.le_succ_of_le (hσ id hid)
    · have hnew : id = ids.draw.1 := congrArg AgentId.mk hid
      rw [hnew, Equiv.trans_apply, Equiv.swap_apply_left]
      exact Nat.le_refl _

/-! ## Newcomers -/

/-- Whether an agent was let in, without the agent. -/
def outcome {α : Type} (r : Except GameError α) : Except GameError Unit := r.map fun _ => ()

/-- A newcomer is let in by both plays, or by none. -/
theorem Mirrors.addAgent {settings : Settings} {name : Text} {g g' : Game} {ids ids' : IdSupply}
    (h : Mirrors ⟨g, ids⟩ ⟨g', ids'⟩) (hs : settings.IsWhole) (hname : name.isWhole = true) :
    outcome (g.addAgent settings name {} ids).1 = outcome (g'.addAgent settings name {} ids').1 ∧
      Mirrors ⟨(g.addAgent settings name {} ids).2.1, (g.addAgent settings name {} ids).2.2⟩
        ⟨(g'.addAgent settings name {} ids').2.1, (g'.addAgent settings name {} ids').2.2⟩ := by
  obtain ⟨hg, σ, hgame, hdrawn⟩ := h
  dsimp only at hg hgame hdrawn
  have hmade := Game.MadeOf.addAgent ids
    (hg.within (Material.upTo_within (Game.drawn_le_addAgent g settings name {} ids)))
    (hs.madeOf _) hname Seed.madeOf_empty fun _ hn => hn
  have hnamed : (g'.agentNamed? name).isSome = (g.agentNamed? name).isSome := by
    rw [hgame, Game.agentNamed?_rename, Option.isSome_map]
  rw [Game.addAgent_newcomer] at hmade
  rw [Game.addAgent_newcomer, Game.addAgent_newcomer, hnamed]
  cases hsome : (g.agentNamed? name).isSome with
  | true =>
    rw [hsome] at hmade
    exact ⟨rfl, hmade, σ, hgame, hdrawn⟩
  | false =>
    rw [hsome] at hmade
    obtain ⟨τ, hsame, hnew, hτ⟩ := exists_renaming hg hdrawn
    refine ⟨rfl, hmade, τ, ?_, hτ⟩
    have hagents : g'.agents = g.agents.map (Agent.rename τ) := by
      rw [hgame, ← hsame]
      rfl
    have hlast : Agent.newcomer settings name ids'.draw.1 =
        (Agent.newcomer settings name ids.draw.1).rename τ := by
      rw [← hnew]
      rfl
    have htranscript : g'.transcript = g.transcript := by rw [hgame, Game.transcript_rename]
    simp only [Game.rename, hagents, hlast, htranscript, List.map_append, List.map_singleton,
      Bool.false_eq_true, if_false]

theorem Mirrors.addAgents {settings : Settings} {names : List Text} {g g' : Game}
    {ids ids' : IdSupply} (h : Mirrors ⟨g, ids⟩ ⟨g', ids'⟩) (hs : settings.IsWhole)
    (hnames : ∀ t ∈ names, t.isWhole = true) :
    (g.addAgents settings ids names).1 = (g'.addAgents settings ids' names).1 ∧
      Mirrors ⟨(g.addAgents settings ids names).2.1, (g.addAgents settings ids names).2.2⟩
        ⟨(g'.addAgents settings ids' names).2.1, (g'.addAgents settings ids' names).2.2⟩ := by
  induction names generalizing g g' ids ids' with
  | nil => exact ⟨rfl, h⟩
  | cons name names ih =>
    obtain ⟨hname, hnames⟩ := List.forall_mem_cons.mp hnames
    obtain ⟨houtcome, hadd⟩ := h.addAgent hs hname
    unfold Game.addAgents
    rcases hr : g.addAgent settings name {} ids with ⟨result, _, _⟩
    rcases hr' : g'.addAgent settings name {} ids' with ⟨result', _, _⟩
    rw [hr, hr'] at hadd houtcome
    cases result with
    | ok a =>
      cases result' with
      | ok a' => exact ih hadd hnames
      | error e' => cases houtcome
    | error e =>
      cases result' with
      | ok a' => cases houtcome
      | error e' => exact ⟨houtcome, hadd⟩

/-- A new game begins in both plays, or in none. -/
theorem Mirrors.newGame {settings : Settings} (h : p.Mirrors q) (hs : settings.IsWhole) :
    (Game.newGame settings p.ids).1 = (Game.newGame settings q.ids).1 ∧
      Mirrors ⟨(Game.newGame settings p.ids).2.1, (Game.newGame settings p.ids).2.2⟩
        ⟨(Game.newGame settings q.ids).2.1, (Game.newGame settings q.ids).2.2⟩ :=
  h.emptied.addAgents hs hs.seedAgents

end Play

/-! ## Commands -/

theorem answerOf_rename (σ : Perm AgentId) (width : Int) (r : Except CommandFailure Reply) :
    answerOf width (r.map (Reply.rename σ)) = answerOf width r := by
  cases r with
  | ok r => exact congrArg Except.ok (r.text_rename σ width)
  | error e => rfl

namespace Command

open Play

variable {p q : Play} {settings : Settings}

theorem runAddAgent_fst (settings : Settings) (p : Play) (name : String) :
    (runAddAgent settings p name).1 =
      match outcome (p.game.addAgent settings name {} p.ids).1 with
      | .ok _ => .ok (.added name)
      | .error (.duplicateName _) => .ok (.nameTaken name)
      | .error e => .error (.refused e) := by
  unfold runAddAgent
  split
  next h => rw [h]; rfl
  next h => rw [h]; rfl
  next e _ _ hne h =>
    rw [h]
    cases e with
    | duplicateName name => exact absurd rfl (hne name)
    | _ => rfl

theorem runNewGame_fst (settings : Settings) (p : Play) :
    (runNewGame settings p).1 =
      match (Game.newGame settings p.ids).1 with
      | .ok _ => .ok .welcome
      | .error e => .error (.refused e) := by
  unfold runNewGame
  split <;> rename_i h <;> rw [h]

/-- A command of strings gets the same answer in both plays. -/
theorem run_mirrors {c : Command} (h : p.Mirrors q) (hs : settings.IsWhole)
    (hc : ∀ n, c.MadeOf (.upTo n)) (width : Int) :
    answerOf width (c.run settings p).1 = answerOf width (c.run settings q).1 ∧
      Mirrors (c.run settings p).2 (c.run settings q).2 := by
  cases hlets : c.letsIn with
  | true =>
    cases c with
    | addAgent name =>
      obtain ⟨houtcome, hadd⟩ := h.addAgent hs (Text.isWhole_ofString name)
      rw [run, run, runAddAgent_fst, runAddAgent_fst, houtcome, runAddAgent_play, runAddAgent_play]
      exact ⟨rfl, hadd⟩
    | newGame =>
      obtain ⟨hresult, hnew⟩ := h.newGame hs
      rw [run, run, runNewGame_fst, runNewGame_fst, hresult, runNewGame_play, runNewGame_play]
      exact ⟨rfl, hnew⟩
    | _ => cases hlets
  | false =>
    obtain ⟨hp, σ, hgame, hdrawn⟩ := h
    have hids := ids_run settings p hlets
    have hmade : (c.run settings p).2.game.MadeOf (.upTo (c.run settings p).2.ids.drawn) := by
      rw [hids]
      exact (madeOf_run hp (hs.madeOf _) (hc _) fun n hn => hids ▸ hn).game
    have hrun : c.run settings q = renamed σ q.ids (c.run settings p) := by
      obtain ⟨g, ids⟩ := q
      dsimp only at hgame
      rw [hgame]
      exact run_rename σ settings hlets
    rw [hrun]
    refine ⟨(answerOf_rename σ width _).symm, hmade, σ, rfl, ?_⟩
    rw [hids]
    exact hdrawn

end Command

/-! ## Lines -/

namespace Interpreter

variable {it : Interpreter} {p q : Play}

theorem madeOf_of_parse?_eq_some {line : String} {c : Command} (hc : Command.parse? line = some c)
    (n : Nat) : c.MadeOf (.upTo n) :=
  Command.madeOf_of_parse? Text.isWhole_ofString (fun _ => trivial) hc

theorem reply_mirrors (h : p.Mirrors q) (hs : it.settings.IsWhole) (line : String) :
    answerOf it.width (it.reply p line).1 = answerOf it.width (it.reply q line).1 ∧
      Play.Mirrors (it.reply p line).2 (it.reply q line).2 := by
  unfold reply
  cases hc : Command.parse? line with
  | none => exact ⟨rfl, h⟩
  | some c => exact Command.run_mirrors h hs (madeOf_of_parse?_eq_some hc) it.width

/-- What is answered consists of characters. -/
theorem isWhole_answer {line : String} {t : Text} (hp : p.game.MadeOf (.upTo p.ids.drawn))
    (hs : it.settings.IsWhole) (ht : answerOf it.width (it.reply p line).1 = .ok t) :
    t.isWhole = true := by
  unfold reply at ht
  cases hc : Command.parse? line with
  | none =>
    rw [hc] at ht
    cases ht
    exact Text.isWhole_ofString _
  | some c =>
    rw [hc] at ht
    have hgame := hp.within (Material.upTo_within (Command.drawn_le_run it.settings p c))
    have hleaves := Command.madeOf_run hgame (hs.madeOf _) (madeOf_of_parse?_eq_some hc _)
      fun _ hn => hn
    cases hr : (c.run it.settings p).1 with
    | error e =>
      dsimp only at ht
      rw [hr] at ht
      cases ht
    | ok r =>
      dsimp only at ht
      rw [hr] at ht
      cases ht
      exact Reply.isWhole_text (fun _ h => h) (hleaves.reply r hr) it.width

theorem recorded_mirrors {line : String} {t : Text} (h : p.Mirrors q) (ht : t.isWhole = true) :
    Play.Mirrors (recorded line t p) (recorded line t q) := by
  obtain ⟨hp, σ, hgame, hdrawn⟩ := h
  refine ⟨hp.record (Text.isWhole_ofString line) ht, σ, ?_, hdrawn⟩
  rw [recorded, recorded, hgame]
  rfl

/-- A line gets the same answer in both plays, and they go on mirroring each other. -/
theorem execute_mirrors (h : p.Mirrors q) (hs : it.settings.IsWhole) (line : String) :
    (it.execute p line).1 = (it.execute q line).1 ∧
      Play.Mirrors (it.execute p line).2 (it.execute q line).2 := by
  obtain ⟨hanswer, hplay⟩ := reply_mirrors h hs line
  rw [execute_fst, execute_fst, execute_snd, execute_snd, ← hanswer]
  refine ⟨rfl, ?_⟩
  cases ha : answerOf it.width (it.reply p line).1 with
  | ok t => exact recorded_mirrors hplay (isWhole_answer h.madeOf hs ha)
  | error e => exact hplay

end Interpreter

end Discourse
