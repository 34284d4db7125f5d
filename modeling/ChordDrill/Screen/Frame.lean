import ChordDrill.Screen.Grid

/-!
# ChordDrill.Screen.Frame

A border around a rectangle, with a title in its upper edge.
-/

namespace ChordDrill.Screen

open Text (Symbol)

/-- The symbols of a border. -/
structure Border where
  leftTop : Char
  rightTop : Char
  leftBottom : Char
  rightBottom : Char
  horizontal : Char := '─'
  vertical : Char := '│'
deriving DecidableEq, Repr

namespace Border

def square : Border :=
  { leftTop := '┌', rightTop := '┐', leftBottom := '└', rightBottom := '┘' }

def rounded : Border :=
  { leftTop := '╭', rightTop := '╮', leftBottom := '╰', rightBottom := '╯' }

end Border

/-- A frame: its border, the style of all its cells, and its title. -/
structure Frame where
  border : Border := .square
  style : Style
  title : String
deriving DecidableEq, Repr

namespace Frame

/-- The symbols of a title that fit into `room` columns, each with its column. -/
def titleMarks (y : Nat) (room x : Nat) : List Symbol → List Mark
  | [] => []
  | s :: ss =>
    if s.width ≤ room then
      { x, y, ink := .put s {} } :: titleMarks y (room - s.width) (x + s.width) ss
    else []

/-- The marks of a frame in a rectangle that is not empty: the edges, the corners, and the title
from the second cell on as far as the corner on the right. -/
def edges (f : Frame) (r : Rect) : List Mark :=
  let put (c : Char) (x y : Nat) : Mark := { x, y, ink := .put [c] f.style }
  let xs := (List.range r.width).map (r.x + ·)
  let ys := (List.range r.height).map (r.y + ·)
  let lastX := r.right - 1
  let lastY := r.bottom - 1
  ys.map (put f.border.vertical r.x ·)
    ++ xs.map (put f.border.horizontal · r.y)
    ++ ys.map (put f.border.vertical lastX ·)
    ++ xs.map (put f.border.horizontal · lastY)
    ++ [put f.border.rightBottom lastX lastY, put f.border.rightTop lastX r.y,
        put f.border.leftBottom r.x lastY, put f.border.leftTop r.x r.y]
    ++ titleMarks r.y (r.width - 2) (r.x + 1) (Text.symbols f.title.toList)

/-- The picture of a frame. -/
def marks (f : Frame) (r : Rect) : List Mark := if r.isEmpty then [] else f.edges r

end Frame

end ChordDrill.Screen
