import ChordDrill.Screen.Grid

/-!
# ChordDrill.Screen.StatusBar

The last line of the screen: state and progress on the left, time and source on the right, and a
message in the middle. All of them are placed in the area, so that no column leaves the 16-bit
words.
-/

namespace ChordDrill.Screen

/-- What the status bar says. -/
structure StatusBar where
  state : String
  progress : String
  clock : String
  source : String
  message : Option String := none
deriving DecidableEq, Repr

namespace StatusBar

/-- The width at which texts are placed: the number of characters, as a 16-bit word. -/
def placedWidth (text : String) : Nat := text.length % 0x10000

/-- The style of the whole bar. -/
def base (p : Palette) : Style := { bg := some p.keyOff, fg := some p.fg }

/-- A text of one style and the column at which it begins. -/
structure Label where
  x : Nat
  text : String
  style : Style
deriving DecidableEq, Repr

/-- The texts of the bar in an area, in the order in which they are drawn. -/
def labels (b : StatusBar) (p : Palette) (area : Rect) : List Label :=
  let left := " " ++ b.state ++ " | " ++ b.progress ++ " "
  let right := " " ++ b.clock ++ " | " ++ b.source ++ " | Ctrl+Q quit "
  let message : List Label :=
    match b.message with
    | some m =>
      [{ x := area.x + (area.width / 2 - placedWidth m / 2), text := m
         style := { base p with fg := some p.pending } }]
    | none => []
  [{ x := area.x, text := left, style := (base p).bolder }]
    ++ message
    ++ [{ x := area.x + (area.width - placedWidth right), text := right, style := base p }]

/-- The picture of the status bar on the first row of an area: its background, then its texts. -/
def marks (b : StatusBar) (p : Palette) (screen area : Rect) : List Mark :=
  ((List.range area.width).flatMap fun i => write screen.right (area.x + i) area.y " " (base p))
    ++ (b.labels p area).flatMap fun l => write screen.right l.x area.y l.text l.style

end StatusBar

end ChordDrill.Screen
