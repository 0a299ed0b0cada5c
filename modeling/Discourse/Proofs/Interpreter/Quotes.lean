import Discourse.Proofs.Command.Grammar
import Discourse.Proofs.Game.Newcomers
import Discourse.Proofs.Interpreter.Line

/-!
# Double quotes

What an agent says for or against a sentence is stored without double quotes. A rule is stored in
the words in which it is written, quotes included, and these come from the settings or from a line
that adds the rule.

* `Text.Unquoted`: a text without double quotes.
* `Command.spoken`, `Command.written`: the sentences that a command is about, and those of a rule
  that it adds.
* `Agent.Worded`: what the sentences on record and those of the rules of an agent are.
* `Interpreter.worded_playAfter`: what they are after any lines.
-/

namespace Discourse

/-! ## Sentences without quotes -/

/-- There is no double quote in the text. -/
def Text.Unquoted (t : Text) : Prop := CodePoint.char '"' ∉ t.points

instance : DecidablePred Text.Unquoted := fun t => inferInstanceAs (Decidable (_ ∉ t.points))

theorem Text.mem_of_mem_stripChars {cls : Char → Bool} {cs : List Char} {c : Char}
    (h : c ∈ stripChars cls cs) : c ∈ cs := by
  unfold stripChars at h
  have hback := List.mem_reverse.mp ((List.dropWhile_sublist cls).mem (List.mem_reverse.mp h))
  exact (List.dropWhile_sublist cls).mem hback

theorem unquoted_sentenceOf (text : String) : (sentenceOf text).Unquoted := by
  intro h
  rw [sentenceOf, Text.ofString, Text.points_ofChars, Text.trim, String.toList_ofList,
    List.mem_map] at h
  obtain ⟨c, hc, hquote⟩ := h
  have hkept := Text.mem_of_mem_stripChars hc
  rw [removeQuotes, String.toList_ofList, List.mem_filter, CodePoint.char.inj hquote] at hkept
  exact absurd hkept.2 (by decide)

/-! ## Sentences in a command -/

namespace Command

/-- The sentence for or against which something is said. -/
def spoken? : Command → Option Sentence
  | assert _ s | disavow _ s | challenge _ _ s | withdraw _ _ s => some s
  | _ => none

/-- The sentences of a rule that is added. -/
def written : Command → List Sentence
  | editInference _ .add _ premises conclusion => premises ++ [conclusion]
  | editIncompatibility _ .add sentences => sentences
  | _ => []

/-- What is said for or against a sentence in a line is said without double quotes. -/
theorem unquoted_of_parse? {line : String} {c : Command} (h : parse? line = some c) :
    ∀ s ∈ c.spoken?, s.Unquoted := by
  intro s hs
  have hread := readable_of_parse? h
  cases c with
  | assert | disavow | challenge | withdraw =>
    obtain ⟨text, rfl⟩ := hread
    rw [← Option.some.inj hs]
    exact unquoted_sentenceOf text
  | _ => cases hs

end Command

/-! ## Sentences of an agent -/

/-- The sentences of a configured inference. -/
def RuleSpec.sentences (r : RuleSpec) : List Sentence := r.premises ++ [r.conclusion]

/-- The sentences of the rules that newcomers start with. -/
def Settings.written (settings : Settings) : List Sentence :=
  (settings.defaultCommittive ++ settings.defaultPermissive).flatMap RuleSpec.sentences ++
    settings.defaultIncompatibilities.flatten

/-- What the sentences are that an agent has on record, and those of its rules. -/
structure Agent.Worded (spoken written : Sentence → Prop) (a : Agent) : Prop where
  avowed : a.avowed.All spoken
  challenges : a.challenges.All fun c => spoken c.sentence
  rules : a.rules.MadeOf { text := written }

/-- What the sentences of everybody are. -/
def Game.Worded (spoken written : Sentence → Prop) (g : Game) : Prop :=
  ∀ a ∈ g.agents, a.Worded spoken written

variable {settings : Settings} {spoken written : Sentence → Prop} {p : Play}

theorem madeOf_sentences {specs : List RuleSpec}
    (h : ∀ s ∈ specs.flatMap RuleSpec.sentences, written s) :
    ∀ r ∈ specs, (∀ t ∈ r.premises, written t) ∧ written r.conclusion := by
  intro r hr
  have hall : ∀ s ∈ r.sentences, written s := fun s hs => h s (List.mem_flatMap.mpr ⟨r, hr, hs⟩)
  exact ⟨fun t ht => hall t (List.mem_append_left _ ht), hall _ (by simp [RuleSpec.sentences])⟩

theorem Agent.worded_newcomer (h : ∀ s ∈ settings.written, written s) (name : Text)
    (id : AgentId) : (newcomer settings name id).Worded spoken written := by
  simp only [Settings.written, List.flatMap_append, List.forall_mem_append] at h
  obtain ⟨⟨hcommittive, hpermissive⟩, hincompatible⟩ := h
  refine ⟨OrderedSet.all_empty, OrderedSet.all_empty, ?_⟩
  constructor
  · exact OrderedSet.all_ofList (Seed.madeOf_inferencesOf (madeOf_sentences hcommittive))
  · exact OrderedSet.all_ofList (Seed.madeOf_inferencesOf (madeOf_sentences hpermissive))
  · refine OrderedSet.all_ofList fun i hi => ?_
    obtain ⟨ts, hts, rfl⟩ := List.mem_map.mp hi
    exact OrderedSet.all_ofList fun t ht => hincompatible t (List.mem_flatten.mpr ⟨ts, hts, ht⟩)

/-! ## A command -/

section Change

variable {a : Agent} {s : Sentence}

theorem Agent.Worded.assert (h : a.Worded spoken written) (hs : spoken s) :
    (a.assert s).Worded spoken written :=
  { h with avowed := h.avowed.insert hs }

theorem Agent.Worded.disavow (h : a.Worded spoken written) :
    (a.disavow s).Worded spoken written :=
  { h with avowed := h.avowed.erase }

theorem Agent.Worded.challenge {target challenger : Agent} (h : a.Worded spoken written)
    (hs : spoken s) (hc : a.challenge target s = some challenger) :
    challenger.Worded spoken written := by
  unfold Agent.challenge at hc
  split at hc
  · cases hc
    exact { h with challenges := h.challenges.insert hs }
  · cases hc

theorem Agent.Worded.withdraw {target : Agent} (h : a.Worded spoken written) :
    (a.withdraw target s).Worded spoken written :=
  { h with challenges := h.challenges.erase }

theorem Agent.Worded.withdrawDangling {present : List AgentId} (h : a.Worded spoken written) :
    (a.withdrawDangling present s).Worded spoken written :=
  { h with challenges := h.challenges.filter }

end Change

theorem Play.worded_change {name : String} {f : Agent → Agent} (hp : p.game.Worded spoken written)
    (hf : ∀ a, a.Worded spoken written → (f a).Worded spoken written) :
    (p.change name f).2.game.Worded spoken written := by
  rw [Play.change_snd]
  intro b hb
  rcases Game.mem_modifyFirst hb with hb | ⟨a, ha, rfl⟩
  · exact hp b hb
  · exact hf a (hp a (List.mem_of_find?_eq_some ha))

namespace Command

theorem worded_runRemoveAgent (hp : p.game.Worded spoken written) (name : String) :
    (runRemoveAgent p name).2.game.Worded spoken written := by
  unfold runRemoveAgent Game.removeAgent
  cases p.game.agentNamed? name with
  | none => exact hp
  | some _ => exact fun a ha => hp a (List.mem_of_mem_eraseP ha)

theorem worded_runSetIntelligence (hp : p.game.Worded spoken written) (name digits : String) :
    (runSetIntelligence p name digits).2.game.Worded spoken written := by
  unfold runSetIntelligence
  split
  · exact hp
  · split
    · exact hp
    · exact Play.worded_change hp fun _ ha => { ha with }

theorem worded_runDisavow (hp : p.game.Worded spoken written) (speaker : String) (s : Sentence) :
    (runDisavow p speaker s).2.game.Worded spoken written := by
  unfold runDisavow
  split
  · exact hp
  · split
    · exact Play.worded_change hp fun _ ha => ha.disavow
    · exact hp

theorem worded_runChallenge (hp : p.game.Worded spoken written) (speaker target : String)
    {s : Sentence} (hs : spoken s) :
    (runChallenge p speaker target s).2.game.Worded spoken written := by
  unfold runChallenge
  split
  · exact hp
  next a ha =>
    split
    · exact hp
    · split
      · exact hp
      next hc =>
        have hchallenger := (hp a (List.mem_of_find?_eq_some ha)).challenge hs hc
        exact Play.worded_change hp fun _ _ => hchallenger

theorem worded_runWithdraw (hp : p.game.Worded spoken written) (speaker target : String)
    (s : Sentence) : (runWithdraw p speaker target s).2.game.Worded spoken written := by
  unfold runWithdraw
  split
  · exact hp
  · split
    · exact Play.worded_change hp fun _ ha => ha.withdraw
    · split
      · exact hp
      · exact Play.worded_change hp fun _ ha => ha.withdrawDangling

theorem worded_editInference {speaker : String} {edit : Edit} {kind : InferenceKind}
    {premises : List Sentence} {conclusion : Sentence} (hp : p.game.Worded spoken written)
    (h : ∀ s ∈ (editInference speaker edit kind premises conclusion).written, written s) :
    ((editInference speaker edit kind premises conclusion).run settings p).2.game.Worded spoken
      written := by
  refine Play.worded_change hp fun a ha => ⟨ha.avowed, ha.challenges, ?_⟩
  refine ha.rules.editInference fun hadd => ?_
  subst hadd
  obtain ⟨hpremises, hconclusion⟩ := List.forall_mem_append.mp h
  exact Inference.madeOf_ofPremises hpremises (hconclusion _ List.mem_cons_self)

theorem worded_editIncompatibility {speaker : String} {edit : Edit} {sentences : List Sentence}
    (hp : p.game.Worded spoken written)
    (h : ∀ s ∈ (editIncompatibility speaker edit sentences).written, written s) :
    ((editIncompatibility speaker edit sentences).run settings p).2.game.Worded spoken written := by
  refine Play.worded_change hp fun a ha => ⟨ha.avowed, ha.challenges, ?_⟩
  refine ha.rules.editIncompatibility fun hadd => ?_
  subst hadd
  exact OrderedSet.all_ofList h

/-- A command brings in no other sentences than its own and those of the settings. -/
theorem worded_run {c : Command} (hp : p.game.Worded spoken written)
    (hsettings : ∀ s ∈ settings.written, written s) (hspoken : ∀ s ∈ c.spoken?, spoken s)
    (hwritten : ∀ s ∈ c.written, written s) :
    (c.run settings p).2.game.Worded spoken written := by
  have hnew : ∀ name id, (Agent.newcomer settings name id).Worded spoken written :=
    Agent.worded_newcomer hsettings
  cases c with
  | quit | help | listAgents | score | scoreAll | describe => exact hp
  | addAgent name =>
    rw [run, runAddAgent_play]
    exact Game.forall_mem_addAgent hp (hnew name)
  | newGame =>
    rw [run, runNewGame_play]
    exact Game.forall_mem_newGame fun name _ => hnew name
  | removeAgent name => exact worded_runRemoveAgent hp name
  | setIntelligence name digits => exact worded_runSetIntelligence hp name digits
  | assert speaker s => exact Play.worded_change hp fun _ ha => ha.assert (hspoken s rfl)
  | disavow speaker s => exact worded_runDisavow hp speaker s
  | challenge speaker target s => exact worded_runChallenge hp speaker target (hspoken s rfl)
  | withdraw speaker target s => exact worded_runWithdraw hp speaker target s
  | editInference => exact worded_editInference hp hwritten
  | editIncompatibility => exact worded_editIncompatibility hp hwritten

end Command

/-! ## Lines -/

namespace Interpreter

variable {it : Interpreter}

/-- What is said in a line is stored without double quotes, and a rule in the words of the line. -/
theorem worded_execute (hp : p.game.Worded Text.Unquoted written)
    (hsettings : ∀ s ∈ it.settings.written, written s) {line : String}
    (hline : ∀ c, Command.parse? line = some c → ∀ s ∈ c.written, written s) :
    (it.execute p line).2.game.Worded Text.Unquoted written := by
  rw [Game.Worded, agents_execute, reply]
  cases hc : Command.parse? line with
  | none => exact hp
  | some c =>
    exact Command.worded_run hp hsettings (Command.unquoted_of_parse? hc) (hline c hc)

theorem worded_playAfter_of_lines {lines : List String} (hp : p.game.Worded Text.Unquoted written)
    (hsettings : ∀ s ∈ it.settings.written, written s)
    (hlines : ∀ line ∈ lines, ∀ c, Command.parse? line = some c → ∀ s ∈ c.written, written s) :
    (it.playAfter p lines).game.Worded Text.Unquoted written := by
  induction lines generalizing p with
  | nil => exact hp
  | cons line lines ih =>
    obtain ⟨hline, hlines⟩ := List.forall_mem_cons.mp hlines
    exact ih (worded_execute hp hsettings hline) hlines

/-- The sentences of a rule that some line adds. -/
def WrittenIn (lines : List String) (s : Sentence) : Prop :=
  ∃ line ∈ lines, ∃ c, Command.parse? line = some c ∧ s ∈ c.written

/-- After any lines, nothing that is avowed or challenged has double quotes, and whatever stands in
a rule is configured or stands so in a line that has added the rule. -/
theorem worded_playAfter (it : Interpreter) (lines : List String) :
    (it.playAfter {} lines).game.Worded Text.Unquoted fun s =>
      s ∈ it.settings.written ∨ WrittenIn lines s := by
  refine worded_playAfter_of_lines ?_ (fun s hs => Or.inl hs) ?_
  · rintro _ ⟨⟩
  · exact fun line hline c hc s hs => Or.inr ⟨line, hline, c, hc, hs⟩

/-- A rule can be stored with double quotes, and is then not the rule that it looks like: Bob has
avowed what the premise says, and yet the conclusion is not among his commitments. -/
theorem not_every_sentence_is_unquoted :
    let lines := ["add agent Bob", "Bob adds committive inference: \"A is red\" |- A is hot",
      "Bob asserts A is red"]
    (∀ a ∈ (playAfter {} {} lines).game.agents, (commitments a a).contains "A is hot" = false) ∧
      ¬ ∀ (it : Interpreter) (lines : List String), (∀ s ∈ it.settings.written, s.Unquoted) →
        (it.playAfter {} lines).game.Worded Text.Unquoted Text.Unquoted := by
  intro lines
  refine ⟨by decide +kernel, fun hall => ?_⟩
  have hworded := hall {} lines (by decide +kernel)
  have hquoted : ∃ a ∈ (playAfter {} {} lines).game.agents, ∃ i ∈ a.rules.committive.toList,
      ∃ t ∈ i.premises.toList, ¬ t.Unquoted := by decide +kernel
  obtain ⟨a, ha, i, hi, t, ht, hnot⟩ := hquoted
  exact hnot (((hworded a ha).rules.committive i hi).premises t ht)

/-- A rule with double quotes in a premise does not fire on what anybody has avowed. -/
theorem not_fires_of_quoted {lines : List String} {a : Agent}
    (ha : a ∈ (it.playAfter {} lines).game.agents) {i : Inference} {t : Sentence}
    (ht : t ∈ i.premises.toList) (hquoted : ¬ t.Unquoted) : i.fires a.avowed = false := by
  have hworded : (it.playAfter {} lines).game.Worded Text.Unquoted fun _ => True :=
    worded_playAfter_of_lines (by rintro _ ⟨⟩) (fun _ _ => trivial) fun _ _ _ _ _ _ => trivial
  refine Bool.eq_false_iff.mpr fun hfires => hquoted ?_
  have hmem : t ∈ a.avowed := OrderedSet.isSubset_iff_forall_toList.mp hfires t ht
  exact (hworded a ha).avowed t (OrderedSet.mem_iff_mem_toList.mp hmem)

end Interpreter

end Discourse
