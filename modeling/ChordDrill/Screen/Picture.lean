import ChordDrill.App
import ChordDrill.Screen.KeyboardView
import ChordDrill.Screen.Panels
import ChordDrill.Screen.StatusBar

/-!
# ChordDrill.Screen.Picture

The whole screen: the keyboard above, the panel in the middle, the status bar below.

* `picture` — the picture of an application.
* `screen?` — what a terminal shows of it.
-/

namespace ChordDrill.Screen

/-- The rows of the keyboard with its frame. -/
def keyboardHeight : Nat := 8

/-- The colors of an application. -/
def paletteOf (a : App) : Palette := .ofTheme a.settings.screen.theme

/-- The frame around the keyboard. -/
def keyboardFrame (p : Palette) : Frame :=
  { border := .rounded, style := .colored p.dim, title := " ⌨ Keyboard " }

/-- The panel in the middle: the results once the drill is over, else the prompt. -/
def panel (a : App) : Paragraph :=
  match a.mode, a.summary with
  | .finished, some s => summaryPanel (paletteOf a) s
  | _, _ => promptPanel (paletteOf a) a.current a.entered a.verdict

/-- The status bar of an application. -/
def statusBar (a : App) : StatusBar :=
  { state := a.mode.label
    progress := a.progress
    clock := a.clock
    source := a.source
    message := a.status? }

/-- The picture of an application on a screen of at least 17 rows. -/
def picture (a : App) (width height : Nat) : List Mark :=
  let screen : Rect := .new 0 0 width height
  let top : Rect := .new 0 0 width keyboardHeight
  let middle : Rect := .new 0 keyboardHeight width (height - keyboardHeight - 1)
  let last : Rect := .new 0 (height - 1) width 1
  let p := paletteOf a
  (keyboardFrame p).marks top
    ++ KeyboardView.marks p a.keyboard screen top.inner
    ++ (panel a).marks screen middle
    ++ (statusBar a).marks p screen last

/-- What a terminal shows of an application; `none` if the picture does not fit. -/
def screen? (a : App) (width height : Nat) : Option Grid :=
  ((Grid.empty width height).paint (picture a width height)).map Grid.shown

end ChordDrill.Screen
