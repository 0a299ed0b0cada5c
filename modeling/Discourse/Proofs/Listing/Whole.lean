import Discourse.Proofs.Command.Material
import Discourse.Proofs.Text.Whole

/-!
# Answers consist of characters

Wrapping only adds separators, line breaks and blanks, and the words of an answer are strings. So an
answer about names and sentences that consist of characters consists of characters.

* `Listing.isWhole_wrap`: wrapping.
* `Listing.isWhole_score`, `Listing.isWhole_agent`: listings.
* `Reply.isWhole_text`: answers.
-/

namespace Discourse

namespace Listing

/-! ## Wrapping -/

theorem mem_of_mem_pieces {ps piece : List CodePoint} {p : CodePoint} (h : piece ∈ pieces ps)
    (hp : p ∈ piece) : p ∈ ps := by
  induction ps using pieces.induct generalizing piece with
  | case1 =>
    rw [pieces, List.mem_singleton] at h
    exact h ▸ hp
  | case2 ps ih =>
    rw [pieces] at h
    rcases List.mem_cons.mp h with rfl | h
    · cases hp
    · exact List.mem_cons_of_mem _ (List.mem_cons_of_mem _ (ih h hp))
  | case3 ps ih =>
    rw [pieces] at h
    rcases List.mem_cons.mp h with rfl | h
    · cases hp
    · exact List.mem_cons_of_mem _ (List.mem_cons_of_mem _ (ih h hp))
  | case4 q ps hsemi hcomma hnil ih => exact absurd hnil (pieces_ne_nil ps)
  | case5 q ps hsemi hcomma first rest hcons ih =>
    rw [pieces, hcons] at h
    · rcases List.mem_cons.mp h with rfl | h
      · rcases List.mem_cons.mp hp with rfl | hp
        · exact List.mem_cons_self
        · exact List.mem_cons_of_mem q (ih (hcons ▸ List.mem_cons_self) hp)
      · exact List.mem_cons_of_mem q (ih (hcons ▸ List.mem_cons_of_mem first h) hp)
    · exact hsemi
    · exact hcomma

theorem piece_of_mem_layout {width : Int} {indent column : Nat} {ps : List (List CodePoint)}
    {placed : Placed} (h : placed ∈ layout width indent column ps) : placed.piece ∈ ps := by
  induction ps generalizing column with
  | nil => cases h
  | cons piece ps ih =>
    rw [layout] at h
    split at h
    all_goals
      rcases List.mem_cons.mp h with rfl | h
      · exact List.mem_cons_self
      · exact List.mem_cons_of_mem piece (ih h)

theorem isHalf_of_mem_points {indent : List CodePoint} {placed : Placed} {p : CodePoint}
    (hi : ∀ q ∈ indent, q.isHalf = false) (hpiece : ∀ q ∈ placed.piece, q.isHalf = false)
    (hp : p ∈ placed.points indent) : p.isHalf = false := by
  rcases List.mem_append.mp hp with hp | hp
  · split at hp
    · rcases List.mem_cons.mp hp with rfl | hp
      · rfl
      · exact hi p hp
    · cases hp
  · exact hpiece p hp

theorem isHalf_of_mem_setPieces {indent : List CodePoint} {placed : List Placed} {p : CodePoint}
    (hi : ∀ q ∈ indent, q.isHalf = false)
    (hpiece : ∀ a ∈ placed, ∀ q ∈ a.piece, q.isHalf = false)
    (hp : p ∈ setPieces indent placed) : p.isHalf = false := by
  induction placed with
  | nil => cases hp
  | cons a placed ih =>
    obtain ⟨ha, hplaced⟩ := List.forall_mem_cons.mp hpiece
    cases placed with
    | nil => exact isHalf_of_mem_points hi ha hp
    | cons b placed =>
      rcases List.mem_append.mp hp with hp | hp
      · exact isHalf_of_mem_points hi ha hp
      · rcases List.mem_cons.mp hp with rfl | hp
        · rfl
        · rcases List.mem_cons.mp hp with rfl | hp
          · rfl
          · exact ih hplaced hp

theorem isWhole_wrap {t indent : Text} {width : Int} (ht : t.isWhole = true)
    (hi : indent.isWhole = true) : (wrap t width indent).isWhole = true := by
  rw [Text.isWhole_iff] at ht hi ⊢
  intro p hp
  refine isHalf_of_mem_setPieces hi ?_ hp
  intro placed hplaced q hq
  exact ht q (mem_of_mem_pieces (piece_of_mem_layout hplaced) hq)

/-! ## Parts of a listing -/

theorem isWhole_set {items : List Text} (h : ∀ t ∈ items, t.isWhole = true) :
    (set items).isWhole = true := by
  have hitems : (Text.intercalate ", " items).isWhole = true :=
    Text.isWhole_intercalate (Text.isWhole_ofString _) h
  simp [set, hitems]

theorem isWhole_incompatibilities {sets : List (List Text)}
    (h : ∀ ts ∈ sets, ∀ t ∈ ts, t.isWhole = true) : (incompatibilities sets).isWhole = true := by
  refine Text.isWhole_intercalate (Text.isWhole_ofString _) ?_
  intro t ht
  obtain ⟨ts, hts, rfl⟩ := List.mem_map.mp ht
  exact isWhole_set (h ts hts)

variable {m : Material}

theorem isWhole_inferences (hm : ∀ t, m.text t → t.isWhole = true) {is : List Inference}
    (h : ∀ i ∈ is, i.MadeOf m) : (inferences is).isWhole = true := by
  refine Text.isWhole_intercalate (Text.isWhole_ofString _) ?_
  intro t ht
  obtain ⟨i, hi, rfl⟩ := List.mem_map.mp ht
  have hset : (set i.premises.toList).isWhole = true :=
    isWhole_set fun t ht => hm t ((h i hi).premises t ht)
  simp [inference, hset, hm _ (h i hi).conclusion]

theorem isWhole_challenge {name : Option Text} {s : Sentence}
    (hname : ∀ n ∈ name, n.isWhole = true) (hs : s.isWhole = true) :
    (challenge name s).isWhole = true := by
  have hwhom : (challenged name).isWhole = true := by
    unfold challenged
    split
    · exact Text.isWhole_ofString _
    · split
      · exact Text.isWhole_ofString _
      · exact hname _ rfl
  simp [challenge, hwhom, hs]

/-! ## Listings -/

theorem isWhole_score (hm : ∀ t, m.text t → t.isWhole = true) {s : Score} (h : s.MadeOf m)
    (width : Int) : (score s width).isWhole = true := by
  have hc : (set s.commitments).isWhole = true := isWhole_set fun t ht => hm t (h.commitments t ht)
  have he : (set s.entitlements).isWhole = true :=
    isWhole_set fun t ht => hm t (h.entitlements t ht)
  have hi : (incompatibilities s.incompatibles).isWhole = true :=
    isWhole_incompatibilities fun ts hts t ht => hm t (h.incompatibles ts hts t ht)
  simp [score, isWhole_wrap, hc, he, hi]

theorem isWhole_scores (hm : ∀ t, m.text t → t.isWhole = true) {all : List Score}
    (h : ∀ s ∈ all, s.MadeOf m) (width : Int) : (scores all width).isWhole = true := by
  refine Text.isWhole_join ?_
  intro t ht
  obtain ⟨s, hs, rfl⟩ := List.mem_map.mp ht
  simp [hm _ (h s hs).keeper, hm _ (h s hs).other, isWhole_score hm (h s hs)]

theorem isWhole_agent (hm : ∀ t, m.text t → t.isWhole = true) {d : Description} (h : d.MadeOf m)
    (width : Int) : (agent d width).isWhole = true := by
  have ha : (set d.avowed).isWhole = true := isWhole_set fun t ht => hm t (h.avowed t ht)
  have hi : (incompatibilities d.incompatibilities).isWhole = true :=
    isWhole_incompatibilities fun ts hts t ht => hm t (h.incompatibilities ts hts t ht)
  have hc : (inferences d.committive).isWhole = true := isWhole_inferences hm h.committive
  have hp : (inferences d.permissive).isWhole = true := isWhole_inferences hm h.permissive
  have hs : (Text.intercalate "; " (d.challenges.map fun c =>
      challenge c.targetName c.sentence)).isWhole = true := by
    refine Text.isWhole_intercalate (Text.isWhole_ofString _) ?_
    intro t ht
    obtain ⟨c, hc, rfl⟩ := List.mem_map.mp ht
    exact isWhole_challenge (fun n hn => hm n ((h.challenges c hc).1 n hn))
      (hm _ (h.challenges c hc).2)
  simp [agent, isWhole_wrap, hm _ h.name, ha, hi, hc, hp, hs]

end Listing

/-! ## Answers -/

/-- An answer about names and sentences that consist of characters consists of characters. -/
theorem Reply.isWhole_text {m : Material} (hm : ∀ t, m.text t → t.isWhole = true) {r : Reply}
    (h : r.MadeOf m) (width : Int) : (r.text width).isWhole = true := by
  cases r with
  | goodbye | help | welcome | notRecognized => exact Text.isWhole_ofString _
  | descriptions ds =>
    refine Text.isWhole_intercalate (Text.isWhole_ofString _) ?_
    intro t ht
    obtain ⟨d, hd, rfl⟩ := List.mem_map.mp ht
    exact Listing.isWhole_agent hm (h d hd) width
  | added name | nameTaken name | removed name | nobodyNamed name => simp [text, hm _ h]
  | agentNotFound name => simp [text, notFoundText, hm _ h]
  | score s => exact Listing.isWhole_score hm h width
  | scores all => exact Listing.isWhole_scores hm h width
  | notAsserted name s | neverAsserted name s => simp [text, hm _ h.1, hm _ h.2]
  | portrait d self =>
    simp [text, Listing.isWhole_agent hm h.1 width, Listing.isWhole_score hm h.2 width]

end Discourse
