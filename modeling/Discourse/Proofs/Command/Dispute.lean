import Discourse.Proofs.Command.Saying
import Discourse.Proofs.Command.Spelling
import Discourse.Proofs.Text.Whole

/-!
# Challenging and withdrawing

The form of a challenge and that of a withdrawal end alike: with the name of the one who is
challenged, a link that may be left out, and a sentence. But in the link a challenge may have any
blanks and a withdrawal has single spaces, so of a link with other blanks the withdrawal takes the
word "to" before the name for the name.

* `Grammar.saying`: the end of both forms.
* `Grammar.entitlementTo`: the link.
* `Grammar.exists_of_challenge`: what a line that challenges is put together from.
* `Grammar.fits?_target`, `Grammar.fits?_target_of_spread`: whom a withdrawal is about.
* `Command.parse?_withdraws`: what a line that withdraws asks for.
-/

namespace Discourse

open Text (AllBlank Spacing Solid words)
open Pattern (text sequence maybe anyOf Stops)
open Spelling (IsName)

namespace Grammar

variable {parts : List Pattern} {kept : List String} {blanks before after cs rest tail : List Char}
  {speaker target said : String}

/-! ## A piece of a form that may be left out -/

/-- A piece that begins with a mark, where the mark does not come. -/
theorem fits?_maybe_of_head {p : Pattern} {mark : Char}
    (hp : ∀ {run}, p.Reads run → run.head? = some mark) (hhead : rest.head? ≠ some mark)
    (h : (sequence parts).fits? rest = some kept) :
    (sequence (maybe p :: parts)).fits? rest = some kept := by
  refine (Pattern.fits?_seq_maybe_of_not_reads fun hreads => hhead ?_).trans h
  obtain ⟨first, second, rfl, hfirst, -⟩ := Pattern.reads_seq.mp hreads
  rw [List.head?_append, hp hfirst]
  rfl

/-- Pieces that may be left out, where they are there. -/
theorem fits?_maybe_sequence (ps : List Pattern)
    (h : (sequence (ps ++ parts)).fits? cs = some kept) :
    (sequence (maybe (sequence ps) :: parts)).fits? cs = some kept :=
  Pattern.fits?_seq_maybe (Pattern.fits?_sequence_sequence.trans h)

/-- One of some texts, none of which begins like another one. -/
theorem fits?_anyOf (ss : List String) {s : String} (hs : s ∈ ss)
    (hothers : ∀ t ∈ ss, t ≠ s → ¬ t.toList <+: s.toList ∧ ¬ s.toList <+: t.toList)
    (h : (sequence parts).fits? rest = some kept) :
    (sequence (anyOf ss :: parts)).fits? (s.toList ++ rest) = some kept := by
  induction ss with
  | nil => cases hs
  | cons t ss ih =>
    cases ss with
    | nil =>
      rw [List.mem_singleton.mp hs]
      exact fits?_text h
    | cons u ss =>
      obtain ⟨ht, hothers⟩ := List.forall_mem_cons.mp hothers
      rw [Pattern.anyOf_cons_cons]
      by_cases he : t = s
      · subst he
        exact Pattern.fits?_seq_either_left (fits?_text h)
      · have hnot : ¬ (sequence (text t :: parts)).Reads (s.toList ++ rest) := fun hreads => by
          obtain ⟨run, more, hsplit, hrun, -⟩ := Pattern.reads_sequence_cons.mp hreads
          rw [Pattern.reads_text.mp hrun] at hsplit
          have hprefixes :=
            List.prefix_or_prefix_of_prefix ⟨more, hsplit.symm⟩ (List.prefix_append _ rest)
          rcases hprefixes with hprefix | hprefix
          · exact (ht he).1 hprefix
          · exact (ht he).2 hprefix
        refine (Pattern.fits?_seq_either_right hnot).trans (ih ?_ hothers)
        exact (List.mem_cons.mp hs).resolve_left (Ne.symm he)

/-! ## The end of both forms -/

/-- A sentence at the end of a line, with blanks before it. -/
def saying : List Pattern := [space, sentence, sentenceEnd]

theorem exists_of_fits?_saying (h : (sequence saying).fits? cs = some kept) :
    ∃ blanks said rest, cs = blanks ++ (said ++ rest) ∧ kept = [String.ofList said] ∧
      Spacing blanks ∧ said ≠ [] ∧ '.' ∉ said ∧ (sequence [sentenceEnd]).Reads rest := by
  obtain ⟨blanks, said, rest, hsaid, rfl⟩ := exists_utterance rfl rfl h
  exact ⟨blanks, said, rest, hsaid.parts, rfl, reads_space.mp hsaid.reads, hsaid.nonempty,
    hsaid.noPeriod, by simpa using hsaid.ends⟩

/-- The end of both forms begins with a blank. -/
theorem exists_cons_of_fits?_saying (h : (sequence saying).fits? cs = some kept) :
    ∃ c rest, cs = c :: rest ∧ Text.isBlank c = true := by
  obtain ⟨blanks, said, rest, rfl, -, hblanks, -⟩ := exists_of_fits?_saying h
  obtain ⟨c, blanks, rfl⟩ := List.exists_cons_of_ne_nil hblanks.1
  exact ⟨c, _, rfl, hblanks.2 c List.mem_cons_self⟩

/-! ## The link -/

theorem blanks_append_inj {blanks' rest' : List Char} (hblanks : AllBlank blanks)
    (hblanks' : AllBlank blanks') (hrest : Stops .blank rest) (hrest' : Stops .blank rest')
    (h : blanks ++ rest = blanks' ++ rest') : blanks = blanks' ∧ rest = rest' := by
  have hhas : ∀ c ∈ blanks, CharClass.blank.has c = true := hblanks
  exact Pattern.append_inj_of_stops hhas hblanks' hrest hrest' h

theorem word_append_inj {word word' rest' : List Char}
    (hword : ∀ c ∈ word, Text.isWordChar c = true)
    (hword' : ∀ c ∈ word', Text.isWordChar c = true) (hrest : Stops .word rest)
    (hrest' : Stops .word rest') (h : word ++ rest = word' ++ rest') :
    word = word' ∧ rest = rest' := by
  have hhas : ∀ c ∈ word, CharClass.word.has c = true := hword
  exact Pattern.append_inj_of_stops hhas hword' hrest hrest' h

/-- What may stand between the name of the one who is challenged and the sentence. -/
def entitlementTo (before after : List Char) : List Char :=
  "'s".toList ++ (before ++ ("entitlement".toList ++ (after ++ "to".toList)))

/-- Links with the same blanks, whatever comes after them. -/
theorem entitlementTo_append_inj {before' after' rest' : List Char} (hbefore : Spacing before)
    (hafter : Spacing after) (hbefore' : Spacing before') (hafter' : Spacing after')
    (h : entitlementTo before after ++ rest = entitlementTo before' after' ++ rest') :
    before = before' ∧ after = after' := by
  simp only [entitlementTo, List.append_assoc] at h
  obtain ⟨hb, htail⟩ := blanks_append_inj hbefore.2 hbefore'.2 (stops_blank (by decide))
    (stops_blank (by decide)) (List.append_cancel_left h)
  exact ⟨hb, (blanks_append_inj hafter.2 hafter'.2 (stops_blank (by decide))
    (stops_blank (by decide)) (List.append_cancel_left htail)).1⟩

theorem exists_of_reads_link (h : (sequence [text "'s", space, text "entitlement", space,
    text "to"]).Reads cs) : ∃ before after, Spacing before ∧ Spacing after ∧
      cs = entitlementTo before after := by
  obtain ⟨mark, run, rfl, hmark, h⟩ := Pattern.reads_sequence_cons.mp h
  obtain ⟨before, run, rfl, hbefore, h⟩ := Pattern.reads_sequence_cons.mp h
  obtain ⟨word, run, rfl, hword, h⟩ := Pattern.reads_sequence_cons.mp h
  obtain ⟨after, run, rfl, hafter, h⟩ := Pattern.reads_sequence_cons.mp h
  obtain ⟨last, run, rfl, hlast, h⟩ := Pattern.reads_sequence_cons.mp h
  rw [Pattern.reads_text.mp hmark, Pattern.reads_text.mp hword, Pattern.reads_text.mp hlast,
    Pattern.reads_sequence_nil.mp h, List.append_nil]
  exact ⟨before, after, reads_space.mp hbefore, reads_space.mp hafter, rfl⟩

/-- A link that a challenge may have. -/
def IsLink (link : List Char) : Prop :=
  link = [] ∨ ∃ before after, Spacing before ∧ Spacing after ∧ link = entitlementTo before after

/-- What comes after the name of the one who is challenged: a link or a blank. -/
theorem stops_word_link {link : List Char} (hlink : IsLink link)
    (htail : (sequence saying).fits? tail = some kept) : Stops .word (link ++ tail) := by
  obtain ⟨c, rest, rfl, hc⟩ := exists_cons_of_fits?_saying htail
  rcases hlink with rfl | ⟨before, after, -, -, rfl⟩
  · refine Pattern.stops_cons (Bool.eq_false_iff.mpr fun hword => ?_)
    rw [Text.isBlank_of_isWordChar hword] at hc
    cases hc
  · exact Pattern.stops_cons (by decide)

theorem isName_of_reads {run : List Char} (h : (Pattern.some .word).Reads run) :
    IsName (String.ofList run) := by
  obtain ⟨hne, hword⟩ := Pattern.reads_some.mp h
  refine ⟨fun he => hne ?_, by rwa [String.toList_ofList]⟩
  rw [← String.toList_ofList (l := run), he]
  rfl

/-- The link of a withdrawal, where there is none. -/
theorem fits?_unlinked (hhead : rest.head? ≠ some '\'')
    (h : (sequence parts).fits? rest = some kept) :
    (sequence (maybe (text "'s entitlement to") :: parts)).fits? rest = some kept :=
  fits?_maybe_of_head (fun hreads => by rw [Pattern.reads_text.mp hreads]; rfl) hhead h

/-- The link after the first name has other blanks than single spaces. -/
def SpreadLink (x : String) : Prop :=
  ∃ (blanks : List Char) (target : String) (before after tail : List Char), AllBlank blanks ∧
    IsName target ∧ Spacing before ∧ Spacing after ∧ ¬ (before = [' '] ∧ after = [' ']) ∧
    x.toList = blanks ++ (target.toList ++ (entitlementTo before after ++ tail))

/-- Which link it is can be seen from the text. -/
theorem link_eq_of_spreadLink {x : String} {link : List Char} (hblanks : AllBlank blanks)
    (htarget : IsName target) (hlink : IsLink link)
    (htail : (sequence saying).fits? tail = some kept)
    (hx : x.toList = blanks ++ (target.toList ++ (link ++ tail))) (h : SpreadLink x) :
    ∃ before after, Spacing before ∧ Spacing after ∧ ¬ (before = [' '] ∧ after = [' ']) ∧
      link = entitlementTo before after := by
  obtain ⟨blanks', target', before', after', tail', hblanks', htarget', hbefore', hafter', hspread,
    hx'⟩ := h
  have hstops : Stops .word (entitlementTo before' after' ++ tail') :=
    Pattern.stops_cons (by decide)
  obtain ⟨-, hname⟩ := blanks_append_inj hblanks hblanks' (stops_blank htarget.solid)
    (stops_blank htarget'.solid) (hx.symm.trans hx')
  obtain ⟨-, hrest⟩ :=
    word_append_inj htarget.2 htarget'.2 (stops_word_link hlink htail) hstops hname
  rcases hlink with rfl | ⟨before, after, hbefore, hafter, rfl⟩
  · obtain ⟨c, rest, rfl, hc⟩ := exists_cons_of_fits?_saying htail
    have hhead : some c = some '\'' := congrArg List.head? hrest
    rw [Option.some.inj hhead] at hc
    cases hc
  · obtain ⟨rfl, rfl⟩ := entitlementTo_append_inj hbefore hafter hbefore' hafter' hrest
    exact ⟨before, after, hbefore, hafter, hspread, rfl⟩

/-! ## What is said -/

/-- The characters that count, whichever blanks, quotes and periods stand among them. -/
def content (cs : List Char) : List Char :=
  cs.filter fun c => !Text.isBlank c && c != '"' && c != '.'

@[simp] theorem content_append (cs ds : List Char) :
    content (cs ++ ds) = content cs ++ content ds :=
  List.filter_append ..

theorem content_eq_nil (h : ∀ c ∈ cs, Text.isBlank c = true ∨ c = '.') : content cs = [] :=
  List.filter_eq_nil_iff.mpr fun c hc => by rcases h c hc with hb | rfl <;> simp [*]

theorem content_name {word : List Char} (h : ∀ c ∈ word, Text.isWordChar c = true) :
    content word = word := by
  refine List.filter_eq_self.mpr fun c hc => ?_
  have hword := h c hc
  have hquote : c ≠ '"' := fun he => absurd hword (by rw [he]; decide)
  have hperiod : c ≠ '.' := fun he => absurd hword (by rw [he]; decide)
  simp [Text.isBlank_of_isWordChar hword, hquote, hperiod]

theorem content_dropWhile (cs : List Char) : content (cs.dropWhile Text.isBlank) = content cs := by
  have hdropped : content (cs.takeWhile Text.isBlank) = [] :=
    content_eq_nil fun c hc => Or.inl (List.mem_takeWhile_imp hc)
  have hsplit := congrArg content (List.takeWhile_append_dropWhile (p := Text.isBlank) (l := cs))
  rwa [content_append, hdropped, List.nil_append] at hsplit

theorem content_reverse (cs : List Char) : content cs.reverse = (content cs).reverse :=
  List.filter_reverse ..

/-- A sentence has the content of the text that says it. -/
theorem content_sentence (said : String) :
    content (Text.trim (removeQuotes said)).toList = content said.toList := by
  rw [Text.trim, removeQuotes, String.toList_ofList, String.toList_ofList, Text.stripChars,
    content_reverse, content_dropWhile, content_reverse, content_dropWhile, List.reverse_reverse,
    content, List.filter_filter, content]
  refine List.filter_congr fun c _ => ?_
  cases c != '"' <;> simp

theorem content_of_fits?_saying (h : (sequence saying).fits? cs = some [said]) :
    content said.toList = content cs := by
  obtain ⟨blanks, run, rest, rfl, hsaid, hblanks, -, -, hrest⟩ := exists_of_fits?_saying h
  rw [(List.cons.inj hsaid).1, String.toList_ofList, content_append, content_append,
    content_eq_nil fun c hc => Or.inl (hblanks.2 c hc),
    content_eq_nil (forall_mem_of_reads_sentenceEnd hrest), List.append_nil, List.nil_append]

theorem noPeriod_link {link : List Char} (h : IsLink link) : '.' ∉ link := by
  rcases h with rfl | ⟨before, after, hbefore, hafter, rfl⟩
  · exact List.not_mem_nil
  · have hbefore := hbefore.2.not_mem (by decide : Text.isBlank '.' = false)
    have hafter := hafter.2.not_mem (by decide : Text.isBlank '.' = false)
    simp [entitlementTo, hbefore, hafter]

/-- With a name before it, something else is said. -/
theorem exists_said_of_name {link : List Char} (hblanks : AllBlank blanks) (htarget : IsName target)
    (hlink : IsLink link) (htail : (sequence saying).fits? tail = some [said]) :
    ∃ said', (sequence saying).fits? ([' '] ++ (blanks ++ (target.toList ++ (link ++ tail)))) =
      some [said'] ∧ sentenceOf said' ≠ sentenceOf said := by
  have hreads : (sequence saying).Reads
      ([' '] ++ (blanks ++ (target.toList ++ (link ++ tail)))) := by
    obtain ⟨spaces, run, rest, rfl, -, hspaces, -, hrun, hrest⟩ := exists_of_fits?_saying htail
    have hperiod : Text.isBlank '.' = false := by decide
    have hword : '.' ∉ target.toList := fun hmem => absurd (htarget.2 '.' hmem) (by decide)
    refine Pattern.reads_sequence_cons.mpr ⟨[' '], _, rfl, reads_space.mpr (by decide),
      Pattern.reads_sequence_cons.mpr ⟨blanks ++ (target.toList ++ (link ++ (spaces ++ run))), rest,
        by simp only [List.append_assoc], ?_, hrest⟩⟩
    refine Pattern.reads_group.mpr (Pattern.reads_some.mpr ⟨?_, fun c hc => ?_⟩)
    · simp [Spelling.toList_ne_nil htarget.1]
    · have hc' : c ≠ '.' := fun he => by
        rw [he] at hc
        simp [hblanks.not_mem hperiod, hword, noPeriod_link hlink, hspaces.2.not_mem hperiod, hrun]
          at hc
      simp [CharClass.has, hc']
  obtain ⟨kept, hkept⟩ := Pattern.exists_fits?_of_reads hreads
  obtain ⟨-, said', -, -, rfl, -⟩ := exists_of_fits?_saying hkept
  refine ⟨_, hkept, fun he => ?_⟩
  have hcontent := congrArg (fun s : String => content s.toList) (Text.ofString_inj.mp he)
  simp only [content_sentence, content_of_fits?_saying hkept, content_of_fits?_saying htail,
    content_append, content_name htarget.2] at hcontent
  have hlength := congrArg List.length hcontent
  have hne : 0 < target.toList.length := List.length_pos_iff.mpr (Spelling.toList_ne_nil htarget.1)
  simp only [List.length_append] at hlength
  omega

/-! ## A line that challenges -/

/-- After the verb a line that challenges has a name, a link and a sentence. -/
theorem exists_of_challenge {x : String} (h : challengeForm.pattern.match?
    (speaker ++ " challenges " ++ x) = some [speaker, target, said]) :
    IsName speaker ∧ IsName target ∧ ∃ blanks link tail, AllBlank blanks ∧ IsLink link ∧
      x.toList = blanks ++ (target.toList ++ (link ++ tail)) ∧
      (sequence saying).fits? tail = some [said] := by
  rw [Pattern.match?_eq_fits?] at h
  obtain ⟨lead, run₁, hline, hlead, h₁⟩ := Pattern.exists_of_fits?_seq_bare rfl rfl h
  obtain ⟨name, run₂, more, rfl, hname, h₂, hkept⟩ := Pattern.exists_of_fits?_seq_group h₁
  obtain ⟨gap₁, run₃, rfl, hgap₁, h₃⟩ := Pattern.exists_of_fits?_seq_bare rfl rfl h₂
  obtain ⟨verb, run₄, rfl, hverb, h₄⟩ := Pattern.exists_of_fits?_seq_bare rfl rfl h₃
  obtain ⟨gap₂, run₅, rfl, hgap₂, h₅⟩ := Pattern.exists_of_fits?_seq_bare rfl rfl h₄
  obtain ⟨other, run₆, last, rfl, hother, h₆, rfl⟩ := Pattern.exists_of_fits?_seq_group h₅
  obtain ⟨link, tail, rfl, hlink, htail⟩ := Pattern.exists_of_fits?_seq_bare rfl rfl h₆
  obtain ⟨rfl, hmore⟩ := List.cons.inj hkept
  obtain ⟨rfl, rfl⟩ := List.cons.inj hmore
  have hsolid : Solid name := solid_of_reads_name (Pattern.reads_group.mpr hname)
  have hword : " challenges ".toList = [' '] ++ ("challenges".toList ++ [' ']) := by decide
  rw [Pattern.reads_text.mp hverb] at hline
  simp only [String.toList_append, String.toList_ofList, hword, List.append_assoc] at hline
  obtain ⟨-, hafter⟩ := blanks_append_inj Text.allBlank_nil (reads_gap.mp hlead)
    (stops_blank hsolid) (stops_blank hsolid) hline
  obtain ⟨-, hafter⟩ := blanks_append_inj (by decide) (reads_space.mp hgap₁).2
    (stops_blank (by decide)) (stops_blank (by decide)) (List.append_cancel_left hafter)
  have hrest := List.append_cancel_left hafter
  have hblanks := reads_space.mp hgap₂
  obtain ⟨c, blanks, rfl⟩ := List.exists_cons_of_ne_nil hblanks.1
  refine ⟨isName_of_reads hname, isName_of_reads hother, blanks, link, tail,
    (List.forall_mem_cons.mp hblanks.2).2, ?_, ?_, htail⟩
  · exact (Pattern.reads_maybe.mp hlink).symm.imp_right exists_of_reads_link
  · rw [String.toList_ofList]
    exact (List.cons.inj hrest).2

/-! ## A line that withdraws -/

/-- The words whose challenge is withdrawn. -/
def pronouns : List String := ["his", "her", "its", "their"]

theorem toList_withdrawal (speaker pronoun x : String) :
    (speaker ++ " withdraws " ++ pronoun ++ " challenge to " ++ x).toList =
      speaker.toList ++ ([' '] ++ ("withdraws".toList ++ ([' '] ++ (pronoun.toList ++ ([' '] ++
        ("challenge".toList ++ ([' '] ++ ("to".toList ++ ([' '] ++ x.toList))))))))) := by
  have hverb : " withdraws ".toList = [' '] ++ ("withdraws".toList ++ [' ']) := by decide
  have hword : " challenge to ".toList =
    [' '] ++ ("challenge".toList ++ ([' '] ++ ("to".toList ++ [' ']))) := by decide
  simp only [String.toList_append, hverb, hword, List.append_assoc]

/-- What comes after "challenge" says which one is withdrawn. -/
theorem match?_withdrawForm {pronoun x : String} (hspeaker : IsName speaker)
    (hpronoun : pronoun ∈ pronouns)
    (h : (sequence (maybe (sequence [text "to", space]) :: name ::
      maybe (text "'s entitlement to") :: saying)).fits? ("to".toList ++ ([' '] ++ x.toList)) =
        some kept) :
    withdrawForm.pattern.match? (speaker ++ " withdraws " ++ pronoun ++ " challenge to " ++ x) =
      some (speaker :: kept) := by
  have hspacing : Spacing [' '] := by decide
  have hsolid : ∀ s ∈ pronouns, Solid s.toList := by decide
  have hwhose := fits?_anyOf pronouns hpronoun (by revert hpronoun; revert pronoun; decide)
    (fits?_space hspacing (stops_blank (by decide))
      (fits?_text (s := "challenge") (fits?_space hspacing (stops_blank (by decide)) h)))
  have hwithdraws := fits?_anyOf ["abandons", "withdraws"] (s := "withdraws") (by decide)
    (by decide) (fits?_space hspacing (stops_blank (hsolid pronoun hpronoun))
      (fits?_maybe_sequence [anyOf pronouns, space] hwhose))
  have hline := fits?_gap Text.allBlank_nil (stops_blank hspeaker.solid)
    (fits?_name hspeaker (stops_word hspacing)
      (fits?_space hspacing (stops_blank (by decide)) hwithdraws))
  rw [Pattern.match?_eq_fits?, toList_withdrawal]
  exact hline

/-- A link as a withdrawal has it, or none: the withdrawal is about the one who is challenged. -/
theorem fits?_target {link : List Char} (hblanks : AllBlank blanks) (htarget : IsName target)
    (hlink : link = [] ∨ link = entitlementTo [' '] [' '])
    (htail : (sequence saying).fits? tail = some kept) :
    (sequence (maybe (sequence [text "to", space]) :: name :: maybe (text "'s entitlement to") ::
      saying)).fits? ("to".toList ++ ([' '] ++ (blanks ++ (target.toList ++ (link ++ tail))))) =
        some (target :: kept) := by
  have hspacing : Spacing ([' '] ++ blanks) := ⟨by simp, Text.AllBlank.append (by decide) hblanks⟩
  have hislink : IsLink link :=
    hlink.imp_right fun he => ⟨[' '], [' '], by decide, by decide, he⟩
  have hentitlement : (sequence (maybe (text "'s entitlement to") :: saying)).fits? (link ++ tail) =
      some kept := by
    rcases hlink with rfl | rfl
    · obtain ⟨c, rest, rfl, hc⟩ := exists_cons_of_fits?_saying htail
      exact fits?_unlinked (fun he => by cases he; cases hc) htail
    · exact Pattern.fits?_seq_maybe (fits?_text (s := "'s entitlement to") htail)
  have hname := fits?_name htarget (stops_word_link hislink htail) hentitlement
  refine fits?_maybe_sequence [text "to", space] (fits?_text (s := "to") ?_)
  have hto := fits?_space hspacing (stops_blank htarget.solid) hname
  rwa [List.append_assoc] at hto

/-- A link with other blanks: the withdrawal is about somebody called "to". -/
theorem fits?_target_of_spread (hblanks : AllBlank blanks) (htarget : IsName target)
    (hbefore : Spacing before) (hafter : Spacing after)
    (hspread : ¬ (before = [' '] ∧ after = [' ']))
    (h : (sequence saying).fits?
      ([' '] ++ (blanks ++ (target.toList ++ (entitlementTo before after ++ tail)))) = some kept) :
    (sequence (maybe (sequence [text "to", space]) :: name :: maybe (text "'s entitlement to") ::
      saying)).fits? ("to".toList ++
        ([' '] ++ (blanks ++ (target.toList ++ (entitlementTo before after ++ tail))))) =
          some ("to" :: kept) := by
  have hspacing : Spacing ([' '] ++ blanks) := ⟨by simp, Text.AllBlank.append (by decide) hblanks⟩
  have hquote : ∀ rest, (entitlementTo before after ++ rest).head? = some '\'' := fun _ => rfl
  have hstops : Stops .word (entitlementTo before after ++ tail) := Pattern.stops_cons (by decide)
  refine (Pattern.fits?_seq_maybe_of_not_reads fun hreads => ?_).trans
    (fits?_name (s := "to") (by decide) (stops_word (by decide : Spacing [' ']))
      (fits?_unlinked (by simp) h))
  -- With "to" read as it is meant, name and blanks are as written, and the link is another one.
  obtain ⟨first, run, hline, hfirst, hrun⟩ := Pattern.reads_seq.mp hreads
  obtain ⟨toward, spaces, rfl, htoward, hspaces⟩ := Pattern.reads_sequence_cons.mp hfirst
  obtain ⟨gap, nothing, rfl, hgap, hnothing⟩ := Pattern.reads_sequence_cons.mp hspaces
  obtain ⟨word, run, rfl, hword, hrun⟩ := Pattern.reads_sequence_cons.mp hrun
  obtain ⟨link, last, rfl, hlink, hlast⟩ := Pattern.reads_sequence_cons.mp hrun
  obtain ⟨kept', hkept'⟩ := Pattern.exists_fits?_of_reads hlast
  obtain ⟨hne, hall⟩ := reads_name.mp hword
  rw [Pattern.reads_text.mp htoward, Pattern.reads_sequence_nil.mp hnothing] at hline
  simp only [List.append_assoc, List.append_nil] at hline
  have hlinks : link = [] ∨ link = entitlementTo [' '] [' '] :=
    (Pattern.reads_maybe.mp hlink).symm.imp_right Pattern.reads_text.mp
  have hislink : IsLink link :=
    hlinks.imp_right fun he => ⟨[' '], [' '], by decide, by decide, he⟩
  have hafterTo := List.append_cancel_left hline
  rw [← List.append_assoc] at hafterTo
  obtain ⟨-, hafterGap⟩ := blanks_append_inj hspacing.2 (reads_space.mp hgap).2
    (stops_blank htarget.solid) (stops_blank (solid_of_reads_name hword)) hafterTo
  obtain ⟨-, hafterName⟩ := word_append_inj htarget.2 hall hstops
    (stops_word_link hislink hkept') hafterGap
  rcases hlinks with rfl | rfl
  · obtain ⟨c, rest, rfl, hc⟩ := exists_cons_of_fits?_saying hkept'
    have hhead := hquote tail
    rw [hafterName] at hhead
    cases hhead
    cases hc
  · exact hspread (entitlementTo_append_inj hbefore hafter (by decide) (by decide) hafterName)

/-! ## The forms -/

/-- Whether the command is a challenge. -/
def isChallenge : Command → Bool
  | .challenge .. => true
  | _ => false

theorem eq_challengeForm_or_yields :
    ∀ form ∈ forms, form = challengeForm ∨ form.Yields fun c => isChallenge c = false := by
  simp only [forms, List.forall_mem_cons]
  exact ⟨.inr (bare_yields rfl), .inr (bare_yields rfl), .inr (bare_yields rfl),
    .inr (withOne_yields fun _ => rfl), .inr (withOne_yields fun _ => rfl), .inr (bare_yields rfl),
    .inr (withTwo_yields fun _ _ => rfl), .inr (withTwo_yields fun _ _ => rfl),
    .inr (bare_yields rfl), .inr (withTwo_yields fun _ _ => rfl),
    .inr (withTwo_yields fun _ _ => rfl), .inr (withTwo_yields fun _ _ => rfl), .inl trivial,
    .inr (withThree_yields fun _ _ _ => rfl), .inr (withThree_yields fun _ _ _ => rfl),
    .inr (withThree_yields fun _ _ _ => rfl), .inr (withThree_yields fun _ _ _ => rfl),
    .inr (withThree_yields fun _ _ _ => rfl), .inr (withTwo_yields fun _ _ => rfl),
    .inr (withTwo_yields fun _ _ => rfl), .inr (withOne_yields fun _ => rfl), by simp⟩

theorem opens_withdrawal {pronoun x : String} (hspeaker : IsName speaker)
    (hpronoun : pronoun ∈ pronouns) :
    Opens (speaker ++ " withdraws " ++ pronoun ++ " challenge to " ++ x) speaker.toList
      "withdraws".toList pronoun.toList := by
  have hsolid : ∀ s ∈ pronouns, Solid s.toList := by decide
  have hspacing : Spacing [' '] := by decide
  refine ⟨words ("challenge".toList ++ ([' '] ++ ("to".toList ++ ([' '] ++ x.toList)))), ?_⟩
  rw [toList_withdrawal, Text.words_solid_spacing hspeaker.solid hspacing,
    Text.words_solid_spacing (by decide) hspacing,
    Text.words_solid_spacing (hsolid pronoun hpronoun) hspacing]

end Grammar

/-! ## The command -/

namespace Command

variable {speaker target said line : String}

/-- A line that asks for a challenge is read by the form of a challenge. -/
theorem exists_of_parse?_eq_challenge {s : Sentence}
    (h : parse? line = some (.challenge speaker target s)) :
    ∃ said, Grammar.challengeForm.pattern.match? line = some [speaker, target, said] ∧
      s = sentenceOf said := by
  obtain ⟨form, hform, hread⟩ := List.exists_of_findSome?_eq_some h
  obtain ⟨kept, hmatch, hc⟩ := Option.bind_eq_some_iff.mp hread
  rcases Grammar.eq_challengeForm_or_yields form hform with rfl | hyields
  · match kept with
    | [a, t, said] =>
      obtain ⟨rfl, rfl, rfl⟩ := Command.challenge.inj (Option.some.inj hc)
      exact ⟨said, hmatch, rfl⟩
    | [] | [_] | [_, _] | _ :: _ :: _ :: _ :: _ => cases hc
  · cases hyields kept _ hc

/-- A line that is read by the form of a withdrawal asks for that. -/
theorem parse?_withdraws {pronoun x : String} (hspeaker : IsName speaker)
    (hpronoun : pronoun ∈ Grammar.pronouns)
    (hmatch : Grammar.withdrawForm.pattern.match?
        (speaker ++ " withdraws " ++ pronoun ++ " challenge to " ++ x) =
      some [speaker, target, said]) :
    parse? (speaker ++ " withdraws " ++ pronoun ++ " challenge to " ++ x) =
      some (.withdraw speaker target (sentenceOf said)) := by
  have hopens := Grammar.opens_withdrawal (x := x) hspeaker hpronoun
  have hon : ∀ s ∈ Grammar.pronouns, s.toList ≠ "on".toList := by decide
  refine parse?_eq_some_iff.mpr
    ⟨Grammar.keywordForms ++ [Grammar.speechForm "asserts" .assert,
      Grammar.speechForm "disavows" .disavow, Grammar.challengeForm], Grammar.withdrawForm, _, rfl,
      ?_, _, hmatch, rfl⟩
  simp only [List.forall_mem_append, List.forall_mem_cons]
  exact ⟨Grammar.match?_keywordForms_eq_none hopens (by decide)
      fun hscore => hon pronoun hpronoun hscore.2,
    Grammar.match?_eq_none_of_verb hopens (by decide) (by decide),
    Grammar.match?_eq_none_of_verb hopens (by decide) (by decide),
    Grammar.match?_eq_none_of_verb hopens (by decide) (by decide), by simp⟩

variable {x : String} {s : Sentence}

/-- With single spaces in the link, or without a link, the words of a challenge withdraw it. -/
theorem parse?_withdraws_of_challenge {pronoun : String} (hpronoun : pronoun ∈ Grammar.pronouns)
    (h : parse? (speaker ++ " challenges " ++ x) = some (.challenge speaker target s))
    (hlink : ¬ Grammar.SpreadLink x) :
    parse? (speaker ++ " withdraws " ++ pronoun ++ " challenge to " ++ x) =
      some (.withdraw speaker target s) := by
  obtain ⟨said, hmatch, rfl⟩ := exists_of_parse?_eq_challenge h
  obtain ⟨hspeaker, htarget, blanks, link, tail, hblanks, hislink, hx, htail⟩ :=
    Grammar.exists_of_challenge hmatch
  refine parse?_withdraws hspeaker hpronoun (Grammar.match?_withdrawForm hspeaker hpronoun ?_)
  rw [hx]
  refine Grammar.fits?_target hblanks htarget (hislink.imp_right ?_) htail
  rintro ⟨before, after, hbefore, hafter, rfl⟩
  have htight : before = [' '] ∧ after = [' '] := by
    by_contra hspread
    exact hlink
      ⟨blanks, target, before, after, tail, hblanks, htarget, hbefore, hafter, hspread, hx⟩
  rw [htight.1, htight.2]

/-- With other blanks in the link, they withdraw another sentence, against somebody called "to". -/
theorem exists_parse?_withdraws_of_spreadLink {pronoun : String}
    (hpronoun : pronoun ∈ Grammar.pronouns)
    (h : parse? (speaker ++ " challenges " ++ x) = some (.challenge speaker target s))
    (hlink : Grammar.SpreadLink x) :
    ∃ s', s' ≠ s ∧ parse? (speaker ++ " withdraws " ++ pronoun ++ " challenge to " ++ x) =
      some (.withdraw speaker "to" s') := by
  obtain ⟨said, hmatch, rfl⟩ := exists_of_parse?_eq_challenge h
  obtain ⟨hspeaker, htarget, blanks, link, tail, hblanks, hislink, hx, htail⟩ :=
    Grammar.exists_of_challenge hmatch
  obtain ⟨said', hsaid', hne⟩ := Grammar.exists_said_of_name hblanks htarget hislink htail
  obtain ⟨before, after, hbefore, hafter, hspread, rfl⟩ :=
    Grammar.link_eq_of_spreadLink hblanks htarget hislink htail hx hlink
  refine ⟨sentenceOf said', hne,
    parse?_withdraws hspeaker hpronoun (Grammar.match?_withdrawForm hspeaker hpronoun ?_)⟩
  rw [hx]
  exact Grammar.fits?_target_of_spread hblanks htarget hbefore hafter hspread hsaid'

end Command

end Discourse
