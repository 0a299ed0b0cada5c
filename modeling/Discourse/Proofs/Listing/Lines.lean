import Discourse.Listing.Wrap
import Discourse.Proofs.Text.Replacement
import Mathlib.Data.List.Chain

/-!
# The lines of a listing

A listing that is set consists of lines, and a line of pieces with a separator after each. The first
line begins at once and each further one with the indent. As many pieces are on each line as the
width allows: a line of several pieces keeps within it, and with the first piece of the next line it
would not.

* `Line`, `lines`: the lines at whose ends the listing is broken.
* `replaceAll_eq_pieces`, `not_infix_of_mem_pieces`: the pieces are what the separators leave.
* `points_setPieces`, `flatMap_linesFrom`: what is set is the lines, one under another.
* `filled_linesFrom`: how far each line goes.
* `SetOnLines`, `wrap_setOnLines`: all of it.
-/

namespace Discourse.Listing

/-- What stands after a piece. -/
def separator : List CodePoint := [.char ',', .char ' ']

/-- What may stand after a piece instead before the listing is set. -/
def semicolon : List CodePoint := [.char ';', .char ' ']

/-! ## Pieces -/

variable {p : CodePoint} {ps piece : List CodePoint} {rest : List (List CodePoint)}

theorem exists_cons_of_pieces (h : pieces ps = (p :: piece) :: rest) : ∃ qs, ps = p :: qs := by
  rw [pieces.eq_def] at h
  split at h
  · cases h
  · cases h
  · cases h
  next q qs _ _ =>
    split at h
    · cases h
      exact ⟨qs, rfl⟩
    · cases h
      exact ⟨qs, rfl⟩

/-- Whatever separates the pieces, they are separated by commas once they are set. -/
theorem replaceAll_eq_pieces (ps : List CodePoint) :
    Text.replaceAll semicolon separator ps = separator.intercalate (pieces ps) := by
  have hnext : ∀ qs, separator.intercalate ([] :: pieces qs) =
      separator ++ separator.intercalate (pieces qs) := by
    intro qs
    obtain ⟨piece, rest, hcons⟩ := List.exists_cons_of_ne_nil (pieces_ne_nil qs)
    rw [hcons, List.intercalate_cons_cons]
    rfl
  induction ps using pieces.induct with
  | case1 => rfl
  | case2 ps ih =>
    rw [pieces, hnext, ← ih]
    exact Text.replaceAll_append (List.cons_ne_nil _ _) separator ps
  | case3 ps ih =>
    rw [pieces, hnext, ← ih, Text.replaceAll_cons rfl, Text.replaceAll_cons rfl]
    rfl
  | case4 q ps hsemi hcomma hnil ih => exact absurd hnil (pieces_ne_nil ps)
  | case5 q ps hsemi hcomma first rest hcons ih =>
    have hfront : semicolon.isPrefixOf (q :: ps) = false := by
      rw [← Bool.not_eq_true, List.isPrefixOf_iff_prefix]
      rintro ⟨qs, hqs⟩
      obtain ⟨rfl, rfl⟩ := List.cons.inj hqs
      exact hsemi qs rfl rfl
    have hgrow : separator.intercalate ((q :: first) :: rest) =
        q :: separator.intercalate (first :: rest) := by
      cases rest with
      | nil => rfl
      | cons second rest =>
        rw [List.intercalate_cons_cons, List.intercalate_cons_cons]
        rfl
    rw [Text.replaceAll_cons hfront, ih, hcons, pieces, hcons]
    · exact hgrow.symm
    · exact hsemi
    · exact hcomma

theorem not_infix_of_mem_pieces {mark : List CodePoint} (hmark : mark = separator ∨ mark = semicolon)
    (h : piece ∈ pieces ps) : ¬ mark <:+: piece := by
  have hempty : ¬ mark <:+: [] := by
    rw [List.infix_nil]
    rcases hmark with rfl | rfl <;> exact List.cons_ne_nil _ _
  induction ps using pieces.induct generalizing piece with
  | case1 =>
    rw [pieces, List.mem_singleton] at h
    exact h ▸ hempty
  | case2 ps ih | case3 ps ih =>
    rw [pieces] at h
    rcases List.mem_cons.mp h with rfl | h
    · exact hempty
    · exact ih h
  | case4 q ps hsemi hcomma hnil ih => exact absurd hnil (pieces_ne_nil ps)
  | case5 q ps hsemi hcomma first rest hcons ih =>
    rw [pieces, hcons] at h
    · rcases List.mem_cons.mp h with rfl | h
      · rw [List.infix_cons_iff, not_or]
        refine ⟨?_, ih (hcons ▸ List.mem_cons_self)⟩
        rcases hmark with rfl | rfl
        -- the blank of a mark at the front would be the first of what is left
        · rintro ⟨more, hmore⟩
          obtain ⟨rfl, rfl⟩ := List.cons.inj hmore
          obtain ⟨qs, rfl⟩ := exists_cons_of_pieces hcons
          exact hcomma qs rfl rfl
        · rintro ⟨more, hmore⟩
          obtain ⟨rfl, rfl⟩ := List.cons.inj hmore
          obtain ⟨qs, rfl⟩ := exists_cons_of_pieces hcons
          exact hsemi qs rfl rfl
      · exact ih (hcons ▸ List.mem_cons_of_mem first h)
    · exact hsemi
    · exact hcomma

/-! ## Lines -/

/-- A line of a listing. -/
structure Line where
  indent : List CodePoint
  pieces : List (List CodePoint)

namespace Line

/-- The line as it is set, a separator after each piece. -/
def points (l : Line) : List CodePoint := l.indent ++ l.pieces.flatMap (· ++ separator)

/-- There is no room on the line for the first piece of the next one and a separator. -/
def IsFull (width : Int) (l next : Line) : Prop :=
  ∀ piece ∈ next.pieces.head?, width < l.points.length + piece.length + separator.length

/-- A line with a piece on it is the line that has begun with the piece. -/
theorem points_cons (indent piece : List CodePoint) (rest : List (List CodePoint)) :
    (mk indent (piece :: rest)).points = (mk (indent ++ (piece ++ separator)) rest).points := by
  simp [points]

end Line

/-- The pieces up to the next break, and the lines after it. -/
def linesFrom (indent : List CodePoint) : List Placed → List (List CodePoint) × List Line
  | [] => ([], [])
  | p :: rest =>
    if p.breakBefore then
      ([], ⟨indent, p.piece :: (linesFrom indent rest).1⟩ :: (linesFrom indent rest).2)
    else (p.piece :: (linesFrom indent rest).1, (linesFrom indent rest).2)

/-- The lines of a listing. -/
def lines (text : Text) (width : Int) (indent : Text) : List Line :=
  let placed := layout width indent.points.length 0 (pieces text.points)
  ⟨[], (linesFrom indent.points placed).1⟩ :: (linesFrom indent.points placed).2

section Placing

variable {indent : List CodePoint} {width : Int}

theorem linesFrom_cons_of_break {q : Placed} (h : q.breakBefore = true) (rest : List Placed) :
    linesFrom indent (q :: rest) =
      ([], ⟨indent, q.piece :: (linesFrom indent rest).1⟩ :: (linesFrom indent rest).2) :=
  if_pos h

theorem linesFrom_cons_of_not_break {q : Placed} (h : q.breakBefore = false) (rest : List Placed) :
    linesFrom indent (q :: rest) =
      (q.piece :: (linesFrom indent rest).1, (linesFrom indent rest).2) :=
  if_neg (Bool.eq_false_iff.mp h)

/-! ## What is set -/

theorem points_setPieces {placed : List Placed} (h : placed ≠ []) :
    setPieces indent placed ++ separator =
      placed.flatMap fun q => q.points indent ++ separator := by
  induction placed with
  | nil => exact absurd rfl h
  | cons q placed ih =>
    cases placed with
    | nil => simp [setPieces]
    | cons r placed =>
      rw [List.flatMap_cons, ← ih (List.cons_ne_nil r placed)]
      simp [setPieces, separator]

theorem flatMap_linesFrom (indent : List CodePoint) (placed : List Placed) :
    (placed.flatMap fun q => q.points indent ++ separator) =
      (linesFrom indent placed).1.flatMap (· ++ separator) ++
        (linesFrom indent placed).2.flatMap fun l => .char '\n' :: l.points := by
  induction placed with
  | nil => rfl
  | cons q placed ih =>
    rw [List.flatMap_cons, ih]
    cases h : q.breakBefore with
    | true =>
      rw [linesFrom_cons_of_break h]
      simp [Placed.points, h, Line.points]
    | false =>
      rw [linesFrom_cons_of_not_break h]
      simp [Placed.points, h]

theorem pieces_linesFrom (indent : List CodePoint) (placed : List Placed) :
    (linesFrom indent placed).1 ++ (linesFrom indent placed).2.flatMap Line.pieces =
      placed.map Placed.piece := by
  induction placed with
  | nil => rfl
  | cons q placed ih =>
    rw [List.map_cons, ← ih]
    cases h : q.breakBefore with
    | true =>
      rw [linesFrom_cons_of_break h]
      simp
    | false =>
      rw [linesFrom_cons_of_not_break h]
      rfl

theorem indent_linesFrom {placed : List Placed} :
    ∀ l ∈ (linesFrom indent placed).2, l.indent = indent := by
  induction placed with
  | nil => rintro l ⟨⟩
  | cons q placed ih =>
    intro l hl
    cases h : q.breakBefore with
    | true =>
      rw [linesFrom_cons_of_break h] at hl
      rcases List.mem_cons.mp hl with rfl | hl
      · rfl
      · exact ih l hl
    | false =>
      rw [linesFrom_cons_of_not_break h] at hl
      exact ih l hl

theorem map_piece_layout (width : Int) (indent column : Nat) (ps : List (List CodePoint)) :
    (layout width indent column ps).map Placed.piece = ps := by
  induction ps generalizing column with
  | nil => rfl
  | cons piece ps ih =>
    rw [layout]
    split
    · rw [List.map_cons, ih]
    · rw [List.map_cons, ih]

/-! ## How far the lines go -/

/-- A line that has begun goes as far as the width allows, and so do the lines after it. -/
structure Filled (width : Int) (begun : List CodePoint) (current : List (List CodePoint))
    (later : List Line) : Prop where
  current_fits : current ≠ [] → (Line.mk begun current).points.length ≤ width
  nonempty : ∀ l ∈ later, l.pieces ≠ []
  fits : ∀ l ∈ later, 2 ≤ l.pieces.length → l.points.length ≤ width
  full : (Line.mk begun current :: later).IsChain (Line.IsFull width)

section Begun

variable {begun piece : List CodePoint} {current : List (List CodePoint)} {later : List Line}

theorem Filled.fits_cons (h : Filled width (begun ++ (piece ++ separator)) current later)
    (htwo : 2 ≤ (piece :: current).length) :
    (Line.mk begun (piece :: current)).points.length ≤ width := by
  rw [Line.points_cons]
  apply h.current_fits
  rintro rfl
  simp at htwo

theorem Filled.full_cons (h : Filled width (begun ++ (piece ++ separator)) current later) :
    (Line.mk begun (piece :: current) :: later).IsChain (Line.IsFull width) := by
  obtain ⟨hnext, hlater⟩ := List.isChain_cons.mp h.full
  refine List.isChain_cons.mpr ⟨fun l hl => ?_, hlater⟩
  have hfull := hnext l hl
  rwa [Line.IsFull, ← Line.points_cons] at hfull

/-- A piece for which there is no room begins the next line. -/
theorem Filled.of_break (h : Filled width (indent ++ (piece ++ separator)) current later)
    (hwide : width < begun.length + piece.length + separator.length) :
    Filled width begun [] (⟨indent, piece :: current⟩ :: later) where
  current_fits hnil := absurd rfl hnil
  nonempty := List.forall_mem_cons.mpr ⟨List.cons_ne_nil piece current, h.nonempty⟩
  fits := List.forall_mem_cons.mpr ⟨h.fits_cons, h.fits⟩
  full := by
    refine .cons_cons ?_ h.full_cons
    rintro _ ⟨⟩
    simpa [Line.points] using hwide

/-- A piece for which there is room goes on the line. -/
theorem Filled.of_room (h : Filled width (begun ++ (piece ++ separator)) current later)
    (hroom : begun.length + piece.length + separator.length ≤ width) :
    Filled width begun (piece :: current) later where
  current_fits _ := by
    by_cases hcurrent : current = []
    · subst hcurrent
      simp only [Line.points, List.flatMap_cons, List.flatMap_nil, List.length_append,
        List.append_nil]
      omega
    · rw [Line.points_cons]
      exact h.current_fits hcurrent
  nonempty := h.nonempty
  fits := h.fits
  full := h.full_cons

end Begun

theorem filled_linesFrom (indent : List CodePoint) {begun : List CodePoint} (hbegun : begun ≠ [])
    (ps : List (List CodePoint)) :
    let placed := layout width indent.length begun.length ps
    Filled width begun (linesFrom indent placed).1 (linesFrom indent placed).2 := by
  induction ps generalizing begun with
  | nil =>
    refine ⟨fun hnil => absurd rfl hnil, ?_, ?_, List.isChain_singleton _⟩
    · rintro l ⟨⟩
    · rintro l ⟨⟩
  | cons piece ps ih =>
    intro placed
    have hcolumn : begun.length ≠ 0 := fun hzero => hbegun (List.length_eq_zero_iff.mp hzero)
    have hlength : ∀ front : List CodePoint,
        (front ++ (piece ++ separator)).length = front.length + piece.length + 2 := by
      intro front
      simp [separator, Nat.add_assoc]
    have hset : ∀ front : List CodePoint, front ++ (piece ++ separator) ≠ [] := by
      intro front
      simp [separator]
    by_cases hwide : width < begun.length + piece.length + 2
    · have hplaced : placed =
          ⟨true, piece⟩ :: layout width indent.length (indent.length + piece.length + 2) ps :=
        if_pos ⟨hcolumn, hwide⟩
      rw [hplaced, linesFrom_cons_of_break rfl, ← hlength indent]
      exact (ih (hset indent)).of_break hwide
    · have hplaced : placed =
          ⟨false, piece⟩ :: layout width indent.length (begun.length + piece.length + 2) ps :=
        if_neg fun h => hwide h.2
      rw [hplaced, linesFrom_cons_of_not_break rfl, ← hlength begun]
      exact (ih (hset begun)).of_room (Int.not_lt.mp hwide)

end Placing

/-! ## The whole listing -/

/-- A text is set on lines: its pieces are those of the text, none of them broken, and each line
goes as far as the width allows. -/
structure SetOnLines (text : Text) (width : Int) (indent result : Text) (lines : List Line) :
    Prop where
  kept : separator.intercalate (lines.flatMap Line.pieces) = (Text.replace "; " ", " text).points
  whole : ∀ l ∈ lines, ∀ piece ∈ l.pieces, ¬ separator <:+: piece ∧ ¬ semicolon <:+: piece
  set : result.points ++ separator = [CodePoint.char '\n'].intercalate (lines.map Line.points)
  indented : ∃ first later, lines = first :: later ∧ first.indent = [] ∧
    ∀ l ∈ later, l.indent = indent.points
  nonempty : ∀ l ∈ lines, l.pieces ≠ []
  fits : ∀ l ∈ lines, 2 ≤ l.pieces.length → l.points.length ≤ width
  full : lines.IsChain (Line.IsFull width)

theorem intercalate_newline (l : Line) (later : List Line) :
    [CodePoint.char '\n'].intercalate ((l :: later).map Line.points) =
      l.points ++ later.flatMap fun l => .char '\n' :: l.points := by
  induction later generalizing l with
  | nil => simp
  | cons next later ih =>
    rw [List.map_cons, List.map_cons, List.intercalate_cons_cons, ← List.map_cons, ih next]
    simp

/-- The first piece begins the first line. -/
theorem exists_lines (text : Text) (width : Int) (indent : Text) :
    ∃ piece current later, lines text width indent = ⟨[], piece :: current⟩ :: later ∧
      Filled width (piece ++ separator) current later := by
  obtain ⟨piece, rest, hpieces⟩ := List.exists_cons_of_ne_nil (pieces_ne_nil text.points)
  have hbegun : piece ++ separator ≠ [] := by simp [separator]
  have hlayout : layout width indent.points.length 0 (pieces text.points) =
      ⟨false, piece⟩ ::
        layout width indent.points.length (piece ++ separator).length rest := by
    rw [hpieces, layout, if_neg fun h => h.1 rfl, List.length_append, Nat.zero_add]
    rfl
  refine ⟨piece, _, _, ?_, filled_linesFrom indent.points hbegun rest⟩
  rw [lines, hlayout, linesFrom_cons_of_not_break rfl]

/-- However wide a listing is and whatever its indent, wrapping sets the text on lines. -/
theorem wrap_setOnLines (text : Text) (width : Int) (indent : Text) :
    SetOnLines text width indent (wrap text width indent) (lines text width indent) := by
  have hpieces : (lines text width indent).flatMap Line.pieces = pieces text.points := by
    rw [lines, List.flatMap_cons, pieces_linesFrom, map_piece_layout]
  obtain ⟨piece, current, later, hlines, hfilled⟩ := exists_lines text width indent
  have hfirst : Filled width ([] ++ (piece ++ separator)) current later := hfilled
  refine ⟨?_, ?_, ?_, ?_, ?_, ?_, ?_⟩
  · rw [hpieces]
    exact (replaceAll_eq_pieces text.points).symm
  · intro l hl piece hpiece
    have hmem : piece ∈ pieces text.points := hpieces ▸ List.mem_flatMap.mpr ⟨l, hl, hpiece⟩
    exact ⟨not_infix_of_mem_pieces (.inl rfl) hmem, not_infix_of_mem_pieces (.inr rfl) hmem⟩
  · have hplaced : layout width indent.points.length 0 (pieces text.points) ≠ [] := by
      intro hnil
      apply pieces_ne_nil text.points
      rw [← map_piece_layout width indent.points.length 0 (pieces text.points), hnil]
      rfl
    rw [lines, intercalate_newline, wrap, points_setPieces hplaced, flatMap_linesFrom]
    rfl
  · exact ⟨_, _, rfl, rfl, indent_linesFrom⟩
  · rw [hlines]
    exact List.forall_mem_cons.mpr ⟨List.cons_ne_nil piece current, hfilled.nonempty⟩
  · rw [hlines]
    exact List.forall_mem_cons.mpr ⟨hfirst.fits_cons, hfilled.fits⟩
  · rw [hlines]
    exact hfirst.full_cons

end Discourse.Listing
