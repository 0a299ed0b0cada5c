import Discourse.Text

/-!
# Wrapping a listing

A listing is cut into pieces at each `; ` and `, `, and the pieces are set on lines, each piece
followed by `, `. A line is broken before a piece that would reach beyond the width; the
continuation is indented. The first piece never starts a new line, and a piece is never broken,
so a line of a single piece may be longer than the width.

* `pieces`: the text between separators.
* `layout`: which pieces start a new line.
* `wrap`: the text on lines; the separator after the last piece is left out.
-/

namespace Discourse.Listing

/-- The text between the separators `; ` and `, `. -/
def pieces : List CodePoint → List (List CodePoint)
  | [] => [[]]
  | .char ';' :: .char ' ' :: ps => [] :: pieces ps
  | .char ',' :: .char ' ' :: ps => [] :: pieces ps
  | p :: ps =>
    match pieces ps with
    | [] => [[p]]
    | piece :: rest => (p :: piece) :: rest

theorem pieces_ne_nil (ps : List CodePoint) : pieces ps ≠ [] := by
  unfold pieces
  split
  · simp
  · simp
  · simp
  · split <;> simp

/-- A piece, and whether it starts a new line. -/
structure Placed where
  breakBefore : Bool
  piece : List CodePoint
  deriving DecidableEq, Repr

/-- Places the pieces, `column` code points being on the current line. -/
def layout (width : Int) (indent : Nat) (column : Nat) : List (List CodePoint) → List Placed
  | [] => []
  | piece :: rest =>
    if column ≠ 0 ∧ width < column + piece.length + 2 then
      ⟨true, piece⟩ :: layout width indent (indent + piece.length + 2) rest
    else ⟨false, piece⟩ :: layout width indent (column + piece.length + 2) rest

/-- A piece with the line break before it, if there is one. -/
def Placed.points (indent : List CodePoint) (p : Placed) : List CodePoint :=
  (if p.breakBefore then .char '\n' :: indent else []) ++ p.piece

/-- The code points of placed pieces, with a separator between any two of them. -/
def setPieces (indent : List CodePoint) : List Placed → List CodePoint
  | [] => []
  | [p] => p.points indent
  | p :: rest => p.points indent ++ .char ',' :: .char ' ' :: setPieces indent rest

/-- The listing on lines of at most `width` code points, as far as its pieces allow. -/
def wrap (text : Text) (width : Int := 78) (indent : Text := "  ") : Text :=
  ⟨setPieces indent.points (layout width indent.points.length 0 (pieces text.points))⟩

end Discourse.Listing
