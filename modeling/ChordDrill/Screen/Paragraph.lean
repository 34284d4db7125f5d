import ChordDrill.Screen.Frame
import ChordDrill.Text.Blank

/-!
# ChordDrill.Screen.Paragraph

Lines of styled text in a frame, wrapped at white space to the width inside.

* `Span`, `Line` — styled text.
* `wrap`         — the rows of one line.
* `Paragraph.marks` — the picture.
-/

namespace ChordDrill.Screen

open Text (Symbol)

/-- A text of one style. -/
structure Span where
  text : String
  style : Style
deriving DecidableEq, Repr

/-- A line of several styles. -/
abbrev Line := List Span

/-- A symbol with its style. -/
structure Glyph where
  symbol : Symbol
  style : Style
deriving DecidableEq, Repr

namespace Glyph

def width (g : Glyph) : Nat := g.symbol.width

/-- White space where a line may be broken: also the invisible space, not the space that joins. -/
def isSpace (g : Glyph) : Bool :=
  g.symbol == ['\u200B'] || (g.symbol.all Text.isBlank && g.symbol != ['\u00A0'])

end Glyph

/-- The glyphs of a line; line feeds are left out, other control characters take a cell. -/
def glyphs (l : Line) : List Glyph :=
  l.flatMap fun s =>
    ((Text.symbols s.text.toList).filter fun c => c != ['\n']).map fun c => ⟨c, s.style⟩

/-- The columns of several glyphs. -/
def columns (gs : List Glyph) : Nat := gs.foldr (fun g n => g.width + n) 0

/-! ## Wrapping -/

/-- A line that is being wrapped: the row so far, the white space and the word after it. -/
structure Wrapping where
  rows : List (List Glyph) := []
  row : List Glyph := []
  space : List Glyph := []
  word : List Glyph := []
  /-- The last glyph belonged to a word. -/
  afterWord : Bool := false
deriving DecidableEq, Repr

namespace Wrapping

/-- Move the white space and the word to the row. -/
def settle (w : Wrapping) : Wrapping :=
  { w with row := w.row ++ w.space ++ w.word, space := [], word := [] }

/-- Drop white space from the front as far as it fits into `room` columns. -/
def dropSpace (room : Nat) : List Glyph → List Glyph
  | [] => []
  | g :: gs => if g.width ≤ room then dropSpace (room - g.width) gs else g :: gs

/-- Close the row; white space that still fits on it disappears. -/
def closeRow (limit : Nat) (w : Wrapping) : Wrapping :=
  { w with
    rows := w.rows ++ [w.row]
    row := []
    space := dropSpace (limit - columns w.row) w.space }

/-- Whether a word ends before the glyph, or fills a row of its own. -/
def endsWord (limit : Nat) (w : Wrapping) (g : Glyph) : Bool :=
  (w.afterWord && g.isSpace) ||
    (w.row.isEmpty && columns w.word + columns w.space + g.width > limit)

/-- Whether the row is full before the glyph. -/
def isFull (limit : Nat) (w : Wrapping) (g : Glyph) : Bool :=
  columns w.row ≥ limit ||
    (g.width > 0 && columns w.row + columns w.space + columns w.word ≥ limit)

/-- Add a glyph to the white space or to the word. -/
def add (w : Wrapping) (g : Glyph) : Wrapping :=
  if g.isSpace then { w with space := w.space ++ [g], afterWord := false }
  else { w with word := w.word ++ [g], afterWord := true }

/-- Take the next glyph. One that is wider than a row is left out, and so is white space right
after a row was closed. -/
def next (limit : Nat) (w : Wrapping) (g : Glyph) : Wrapping :=
  if limit < g.width then w
  else
    let w := if w.endsWord limit g then w.settle else w
    if w.isFull limit g then
      let w := w.closeRow limit
      if g.isSpace && w.space.isEmpty then w else w.add g
    else w.add g

/-- The rows once all glyphs are taken. A line without glyphs is one empty row. -/
def finish (w : Wrapping) : List (List Glyph) :=
  let rows := if w.row.isEmpty && w.word.isEmpty && !w.space.isEmpty then w.rows ++ [[]] else w.rows
  let last := w.settle.row
  let rows := if last.isEmpty then rows else rows ++ [last]
  if rows.isEmpty then [[]] else rows

end Wrapping

/-- The rows of a line. -/
def wrap (limit : Nat) (gs : List Glyph) : List (List Glyph) :=
  (gs.foldl (Wrapping.next limit) {}).finish

/-! ## Drawing -/

/-- The marks of a row of glyphs; those without a width are left out. -/
def rowMarks (y x : Nat) : List Glyph → List Mark
  | [] => []
  | g :: gs =>
    if g.width = 0 then rowMarks y x gs
    else { x, y, ink := .put g.symbol g.style } :: rowMarks y (x + g.width) gs

/-- Lines in a frame. -/
structure Paragraph where
  frame : Frame
  lines : List Line
deriving DecidableEq, Repr

namespace Paragraph

/-- The rows of all lines. -/
def rows (p : Paragraph) (limit : Nat) : List (List Glyph) :=
  p.lines.flatMap fun l => wrap limit (glyphs l)

/-- The picture of a paragraph in the part of an area that the screen has. -/
def marks (p : Paragraph) (screen area : Rect) : List Mark :=
  let outer := area.intersect screen
  let inside := outer.inner
  let text :=
    if inside.isEmpty then []
    else
      ((p.rows inside.width).take inside.height).zipIdx.flatMap fun (row, i) =>
        rowMarks (inside.y + i) inside.x row
  p.frame.marks outer ++ text

end Paragraph

end ChordDrill.Screen
