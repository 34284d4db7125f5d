import ChordDrill.Screen.Color
import ChordDrill.Screen.Rect
import ChordDrill.Text.Column

/-!
# ChordDrill.Screen.Grid

A picture is a list of marks, each on one cell; a grid of cells carries them out. A mark outside
the grid is a failure, so that a picture tells which cells it touches before it is painted.

* `Mark`       — what happens to one cell.
* `write`      — the marks of a text on one row.
* `Grid.cell?` — a cell by its place on the screen.
* `Grid.paint` — a grid after a list of marks.
* `Grid.shown` — what a terminal shows of a grid.
-/

namespace ChordDrill.Screen

open Text (Symbol)

/-- What a mark does to its cell. -/
inductive Ink where
  /-- Show a symbol, and set a style on top of the one that is there. -/
  | put (symbol : Symbol) (style : Style)
  /-- Make the cell blank again. -/
  | blank
deriving DecidableEq, Repr

/-- A change of one cell. -/
structure Mark where
  x : Nat
  y : Nat
  ink : Ink
deriving DecidableEq, Repr

/-- The marks of symbols on a row from a column on. Symbols with control characters and symbols
without a width are left out, the first one that does not fit before the column `right` ends the
text, and the cells that a wide symbol hides become blank. -/
def writeSymbols (right y : Nat) (style : Style) (x : Nat) : List Symbol → List Mark
  | [] => []
  | s :: ss =>
    let w := s.width
    if s.hasControl ∨ w = 0 then writeSymbols right y style x ss
    else if x + w ≤ right then
      { x, y, ink := .put s style } ::
        ((List.range (w - 1)).map fun i => { x := x + 1 + i, y, ink := .blank }) ++
        writeSymbols right y style (x + w) ss
    else []

/-- The marks of a text on a row. -/
def write (right x y : Nat) (text : String) (style : Style) : List Mark :=
  writeSymbols right y style x (Text.symbols text.toList)

/-- A cell of the screen. -/
structure Cell where
  symbol : Symbol := [' ']
  style : Style := {}
deriving DecidableEq, Repr

/-- The cell after a mark. -/
def Cell.apply (c : Cell) : Ink → Cell
  | .put symbol style => { symbol, style := style.onto c.style }
  | .blank => {}

/-- The cells of a rectangle, row by row. -/
structure Grid where
  area : Rect
  rows : Array (Array Cell)
  size_rows : rows.size = area.height
  uniform : ∀ row ∈ rows, row.size = area.width
deriving DecidableEq, Repr

namespace Grid

/-- A grid that has the same cell everywhere. -/
def filled (r : Rect) (c : Cell) : Grid where
  area := r
  rows := Array.replicate r.height (Array.replicate r.width c)
  size_rows := Array.size_replicate
  uniform row hrow := by rw [Array.eq_of_mem_replicate hrow, Array.size_replicate]

/-- A grid of blank cells. -/
def empty (width height : Nat) : Grid := filled (.new 0 0 width height) {}

/-- The cell at a place; `none` if there is no such cell. -/
def cell? (g : Grid) (x y : Nat) : Option Cell :=
  if g.area.contains x y then g.rows[y - g.area.y]?.bind fun row => row[x - g.area.x]? else none

/-- The grid after a change of the cell in a row and a column. -/
def change (g : Grid) (column row : Nat) (ink : Ink) : Grid where
  area := g.area
  rows := g.rows.modify row fun cells => cells.modify column fun c => c.apply ink
  size_rows := by rw [Array.size_modify, g.size_rows]
  uniform cells hcells := by
    obtain ⟨i, hi, rfl⟩ := Array.getElem_of_mem hcells
    rw [Array.size_modify] at hi
    rw [Array.getElem_modify]
    split
    · rw [Array.size_modify]
      exact g.uniform _ (Array.getElem_mem hi)
    · exact g.uniform _ (Array.getElem_mem hi)

/-- The grid after one mark; `none` if there is no such cell. -/
def mark (g : Grid) (m : Mark) : Option Grid :=
  if g.area.contains m.x m.y then some (g.change (m.x - g.area.x) (m.y - g.area.y) m.ink)
  else none

/-- The grid after a picture. -/
def paint (g : Grid) : List Mark → Option Grid
  | [] => some g
  | m :: ms =>
    match g.mark m with
    | some g => g.paint ms
    | none => none

/-- The cells of a row that a terminal shows; `covered` says that the symbol before them reaches
into the first one. Such a cell stays blank, but its own symbol still covers the cell after it. -/
def shownCells (covered : Bool) : List Cell → List Cell
  | [] => []
  | c :: cs => (if covered then {} else c) :: shownCells (2 ≤ c.symbol.width) cs

@[simp] theorem length_shownCells (covered : Bool) (cs : List Cell) :
    (shownCells covered cs).length = cs.length := by
  induction cs generalizing covered with
  | nil => rfl
  | cons c cs ih => simp [shownCells, ih]

/-- What a terminal shows of a grid: nothing is drawn on the second column of a wide symbol. -/
def shown (g : Grid) : Grid where
  area := g.area
  rows := g.rows.map fun row => (shownCells false row.toList).toArray
  size_rows := by rw [Array.size_map, g.size_rows]
  uniform row hrow := by
    obtain ⟨cells, hcells, rfl⟩ := Array.mem_map.mp hrow
    rw [List.size_toArray, length_shownCells, Array.length_toList]
    exact g.uniform cells hcells

/-- The text of a row. -/
def rowText (row : Array Cell) : String := String.ofList (row.toList.flatMap Cell.symbol)

/-- The text of all rows. -/
def texts (g : Grid) : List String := g.rows.toList.map rowText

/-- Cells of one row that have one style. -/
structure Run where
  x : Nat
  y : Nat
  length : Nat
  style : Style
deriving DecidableEq, Repr

/-- The longest runs of equal style in a row. -/
def rowRuns (y : Nat) (x : Nat) : List (List Cell) → List Run
  | [] => []
  | cells :: rest =>
    let later := rowRuns y (x + cells.length) rest
    match cells with
    | [] => later
    | c :: _ => { x, y, length := cells.length, style := c.style } :: later

/-- The longest runs of equal style of all rows, those with the default style left out. -/
def runs (g : Grid) : List Run :=
  let rows := g.rows.toList.zipIdx.flatMap fun (row, y) =>
    rowRuns (g.area.y + y) g.area.x (row.toList.splitBy fun a b => a.style == b.style)
  rows.filter fun r => r.style ≠ {}

end Grid

end ChordDrill.Screen
