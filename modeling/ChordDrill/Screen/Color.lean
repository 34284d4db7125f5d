import ChordDrill.Settings

/-!
# ChordDrill.Screen.Color

Colors, the style of a cell, and the palettes of the two themes.

* `Style.onto`      — a style set on top of another.
* `Palette.ofTheme` — the colors of a theme.
-/

namespace ChordDrill.Screen

/-- A color by its three components. -/
structure Color where
  red : UInt8
  green : UInt8
  blue : UInt8
deriving DecidableEq, Repr

/-- Colors and weight; a color that is not given is the terminal's own. -/
structure Style where
  fg : Option Color := none
  bg : Option Color := none
  bold : Bool := false
deriving DecidableEq, Repr

namespace Style

/-- Set a style on top of another: only given colors change, and bold is never taken away. -/
def onto (s below : Style) : Style :=
  { fg := s.fg.or below.fg, bg := s.bg.or below.bg, bold := s.bold || below.bold }

/-- A style with a text color only. -/
def colored (c : Color) : Style := { fg := some c }

/-- The same style in bold. -/
def bolder (s : Style) : Style := { s with bold := true }

end Style

/-- The colors of the screen. -/
structure Palette where
  bg : Color
  fg : Color
  /-- Context and borders. -/
  dim : Color
  /-- Headings and descriptions. -/
  accent : Color
  matched : Color
  mismatched : Color
  /-- Motions of the attempt under way. -/
  pending : Color
  /-- A key at rest. -/
  keyOff : Color
  keyHeld : Color
  /-- A key of the revealed combo. -/
  keyHint : Color
  /-- A key pressed before. -/
  keyUsed : Color
  keyText : Color
  /-- The label of a held key or a key called out. -/
  keyTextOn : Color
deriving DecidableEq, Repr

namespace Palette

def dark : Palette where
  bg := ⟨22, 22, 30⟩
  fg := ⟨200, 200, 210⟩
  dim := ⟨90, 90, 110⟩
  accent := ⟨80, 200, 220⟩
  matched := ⟨80, 200, 120⟩
  mismatched := ⟨240, 90, 100⟩
  pending := ⟨240, 180, 80⟩
  keyOff := ⟨40, 40, 50⟩
  keyHeld := ⟨80, 200, 220⟩
  keyHint := ⟨240, 180, 80⟩
  keyUsed := ⟨55, 55, 70⟩
  keyText := ⟨180, 180, 190⟩
  keyTextOn := ⟨20, 20, 25⟩

/-- High contrast for bright terminals. -/
def light : Palette where
  bg := ⟨245, 245, 248⟩
  fg := ⟨30, 30, 40⟩
  dim := ⟨130, 130, 150⟩
  accent := ⟨0, 130, 160⟩
  matched := ⟨30, 150, 70⟩
  mismatched := ⟨200, 50, 60⟩
  pending := ⟨180, 120, 0⟩
  keyOff := ⟨220, 220, 228⟩
  keyHeld := ⟨0, 130, 160⟩
  keyHint := ⟨180, 120, 0⟩
  keyUsed := ⟨200, 200, 212⟩
  keyText := ⟨50, 50, 60⟩
  keyTextOn := ⟨255, 255, 255⟩

/-- The colors of a theme. -/
def ofTheme : Theme → Palette
  | .dark => dark
  | .light => light

/-- The color of a verdict. -/
def verdict (p : Palette) (isMatch : Bool) : Color := if isMatch then p.matched else p.mismatched

end Palette

end ChordDrill.Screen
