/-!
# ChordDrill.Screen.Rect

Rectangles of cells. The places of the screen are words of 16 bits, so a rectangle ends where the
words do.
-/

namespace ChordDrill.Screen

/-- A rectangle of cells: its left upper corner and its size. Its edges are words, too. -/
structure Rect where
  x : Nat
  y : Nat
  width : Nat
  height : Nat
  right_le : x + width ≤ 0xFFFF
  bottom_le : y + height ≤ 0xFFFF
deriving DecidableEq, Repr

namespace Rect

/-- The rectangle of a size at a place, cut off where the words end. -/
def new (x y width height : Nat) : Rect where
  x := min x 0xFFFF
  y := min y 0xFFFF
  width := min width (0xFFFF - min x 0xFFFF)
  height := min height (0xFFFF - min y 0xFFFF)
  right_le := by omega
  bottom_le := by omega

/-- The first column beyond the rectangle. -/
def right (r : Rect) : Nat := r.x + r.width

/-- The first row beyond the rectangle. -/
def bottom (r : Rect) : Nat := r.y + r.height

def isEmpty (r : Rect) : Bool := r.width == 0 || r.height == 0

/-- Whether a cell lies in the rectangle. -/
def contains (r : Rect) (x y : Nat) : Bool :=
  r.x ≤ x && x < r.right && r.y ≤ y && y < r.bottom

/-- The cells that two rectangles share. -/
def intersect (r s : Rect) : Rect where
  x := max r.x s.x
  y := max r.y s.y
  width := min r.right s.right - max r.x s.x
  height := min r.bottom s.bottom - max r.y s.y
  right_le := by
    have hr := r.right_le
    have hs := s.right_le
    simp only [right]
    omega
  bottom_le := by
    have hr := r.bottom_le
    have hs := s.bottom_le
    simp only [bottom]
    omega

/-- The rectangle less one cell on each side. -/
def inner (r : Rect) : Rect where
  x := min (r.x + 1) r.right
  y := min (r.y + 1) r.bottom
  width := r.width - 2
  height := r.height - 2
  right_le := by
    have hr := r.right_le
    simp only [right]
    omega
  bottom_le := by
    have hr := r.bottom_le
    simp only [bottom]
    omega

end Rect

end ChordDrill.Screen
