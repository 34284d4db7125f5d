import ChordDrill.Keyboard
import ChordDrill.Screen.Grid

/-!
# ChordDrill.Screen.KeyboardView

The picture of the keyboard: its keys are placed first, then those that the screen has room for
are drawn.

Columns are words of 16 bits, and their sums wrap: in an area at the far right of a screen as wide
as the words go, the last keys are placed at the far left. A build that checks its sums fails there
instead of drawing. Rows need no words, since all of them lie in the area.

* `Cap`               — a key with its label and its place.
* `caps`              — the keys of a picture in an area.
* `KeyboardView.marks` — the picture.
-/

namespace ChordDrill.Screen

/-- A key with its label and its place. -/
structure Cap where
  x : UInt16
  y : Nat
  width : UInt16
  label : String
  key : Key
deriving DecidableEq, Repr

/-- Labels and keys of a row, from left to right. -/
abbrev KeyRow := List (String × Key)

namespace KeyboardView

def functionRow : KeyRow :=
  [("F1", .f1), ("F2", .f2), ("F3", .f3), ("F4", .f4), ("F5", .f5), ("F6", .f6), ("F7", .f7),
   ("F8", .f8), ("F9", .f9), ("F10", .f10), ("F11", .f11), ("F12", .f12)]

def numberRow : KeyRow :=
  [("`", .grave), ("1", .digit1), ("2", .digit2), ("3", .digit3), ("4", .digit4), ("5", .digit5),
   ("6", .digit6), ("7", .digit7), ("8", .digit8), ("9", .digit9), ("0", .digit0), ("-", .minus),
   ("=", .equal)]

def topRow : KeyRow :=
  [("Q", .letterQ), ("W", .letterW), ("E", .letterE), ("R", .letterR), ("T", .letterT),
   ("Y", .letterY), ("U", .letterU), ("I", .letterI), ("O", .letterO), ("P", .letterP),
   ("[", .leftBracket), ("]", .rightBracket), ("\\", .backslash)]

def homeRow : KeyRow :=
  [("A", .letterA), ("S", .letterS), ("D", .letterD), ("F", .letterF), ("G", .letterG),
   ("H", .letterH), ("J", .letterJ), ("K", .letterK), ("L", .letterL), (";", .semicolon),
   ("'", .apostrophe)]

def bottomRow : KeyRow :=
  [("Z", .letterZ), ("X", .letterX), ("C", .letterC), ("V", .letterV), ("B", .letterB),
   ("N", .letterN), ("M", .letterM), (",", .comma), (".", .period), ("/", .slash)]

def navigationRows : List KeyRow :=
  [[("Ins", .insert), ("Hom", .home), ("PgU", .pageUp)],
   [("Del", .delete), ("End", .endKey), ("PgD", .pageDown)]]

/-- The width of an ordinary key. -/
def unit : UInt16 := 4

/-- The keys of a row of ordinary keys, one column apart. -/
def rowCaps (x : UInt16) (y : Nat) : KeyRow → List Cap
  | [] => []
  | (label, key) :: rest => { x, y, width := unit, label, key } :: rowCaps (x + unit + 1) y rest

/-- The column after a row and the gap behind it. -/
def afterRow (x : UInt16) (row : KeyRow) : UInt16 := x + .ofNat row.length * (unit + 1)

/-- The escape key and the function keys. -/
def functionCaps (x : UInt16) (y : Nat) : List Cap :=
  { x, y, width := unit, label := "Esc", key := .esc } ::
    rowCaps (x + (unit + 1) * 2) y functionRow

/-- The five rows of the main block, of which the first one is at row `y`. -/
def mainCaps (x : UInt16) (y : Nat) : List Cap :=
  let cap (x : UInt16) (y : Nat) (width : UInt16) (label : String) (key : Key) : Cap :=
    { x, y, width, label, key }
  let step := unit + 1
  let space := x + step * 3
  let right := space + step * 6 + 1
  rowCaps x y numberRow
    ++ [cap (afterRow x numberRow) y (unit + 2) "⌫" .backspace, cap x (y + 1) unit "⇥" .tab]
    ++ rowCaps (x + step) (y + 1) topRow
    ++ [cap x (y + 2) (unit + 1) "⇪" .capsLock]
    ++ rowCaps (x + step + 1) (y + 2) homeRow
    ++ [cap (afterRow (x + step + 1) homeRow) (y + 2) (unit + 2) "↵" .enter,
        cap x (y + 3) (unit + 2) "⇧" .shift]
    ++ rowCaps (x + step + 2) (y + 3) bottomRow
    ++ [cap (afterRow (x + step + 2) bottomRow) (y + 3) (unit + 3) "⇧" .shift,
        cap x (y + 4) unit "Ctl" .ctrl, cap (x + step) (y + 4) unit "◆" .super,
        cap (x + step * 2) (y + 4) unit "Alt" .alt,
        cap space (y + 4) (step * 6) "────" .space,
        cap right (y + 4) unit "Alt" .alt, cap (right + step) (y + 4) unit "Ctl" .ctrl]

/-- The arrow keys, right of the main block. -/
def arrowCaps (x : UInt16) (y : Nat) : List Cap :=
  let step := unit + 1
  let left := x + step * 9 + 1 + step * 3
  [{ x := left + step, y := y + 3, width := unit, label := "▲", key := .up },
   { x := left, y := y + 4, width := unit, label := "◀", key := .left },
   { x := left + step, y := y + 4, width := unit, label := "▼", key := .down },
   { x := left + step * 2, y := y + 4, width := unit, label := "▶", key := .right }]

/-- The keys of navigation, right of the backspace key. -/
def navigationCaps (x : UInt16) (y : Nat) : List Cap :=
  let left := afterRow x numberRow + unit + 4
  navigationRows.zipIdx.flatMap fun (row, i) => rowCaps left (y + i) row

/-- The keys of a picture in an area of at least 40 columns and 5 rows. A sixth row has the
function keys; more columns have the arrows and the keys of navigation. -/
def caps (area : Rect) : List Cap :=
  let x := .ofNat area.x + 1
  let top := area.y
  let y := if area.height ≥ 6 then top + 1 else top
  (if area.height ≥ 6 then functionCaps x top else [])
    ++ mainCaps x y
    ++ (if area.width > 70 then arrowCaps x y else [])
    ++ (if area.width > 90 then navigationCaps x y else [])

/-- A label in the middle of `width` columns; an odd blank goes to the right. -/
def centered (width : Nat) (label : String) : String :=
  let blanks := width - label.length
  "".pushn ' ' (blanks / 2) ++ label ++ "".pushn ' ' (blanks - blanks / 2)

/-- How a key looks: held before called out before pressed earlier. -/
def keyStyle (p : Palette) (s : Keyboard) (k : Key) : Style :=
  if s.isPressed k then { bg := some p.keyHeld, fg := some p.keyTextOn, bold := true }
  else if s.isHinted k then { bg := some p.keyHint, fg := some p.keyTextOn, bold := true }
  else if s.pressCount k > 0 then { bg := some p.keyUsed, fg := some p.keyText }
  else { bg := some p.keyOff, fg := some p.keyText }

/-- Whether the screen has room for a key. -/
def fits (screen : Rect) (c : Cap) : Bool :=
  c.y < screen.bottom && (c.x + c.width).toNat ≤ screen.right

/-- The picture of a key. -/
def capMarks (p : Palette) (s : Keyboard) (screen : Rect) (c : Cap) : List Mark :=
  write screen.right c.x.toNat c.y (centered c.width.toNat c.label) (keyStyle p s c.key)

/-- The text in place of a keyboard that has no room. -/
def placeholder : String := "⌨ Window too small"

/-- The picture of the keyboard. -/
def marks (p : Palette) (s : Keyboard) (screen area : Rect) : List Mark :=
  if area.width < 40 ∨ area.height < 5 then
    write screen.right area.x area.y placeholder (.colored p.keyText)
  else ((caps area).filter (fits screen)).flatMap (capMarks p s screen)

end KeyboardView

end ChordDrill.Screen
