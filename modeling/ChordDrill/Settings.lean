/-!
# ChordDrill.Settings

The settings of the trainer and their defaults.

* `Settings`                 — all settings, in four groups.
* `Settings.refreshInterval` — the time between two pictures.
* `Settings.pacing`          — the pauses after a verdict.
-/

namespace ChordDrill

/-- The colors of the screen. -/
inductive Theme where
  | dark
  | light
deriving DecidableEq, Repr

namespace Theme

/-- The name in a settings file. -/
def name : Theme → String
  | .dark => "Dark"
  | .light => "Light"

def ofName? (s : String) : Option Theme :=
  if s = "Dark" then some .dark else if s = "Light" then some .light else none

@[simp] theorem ofName?_name (t : Theme) : ofName? t.name = some t := by cases t <;> decide

end Theme

/-- How a drill runs. Pauses are in milliseconds. -/
structure DrillSettings where
  /-- Prompts in a drill at most. -/
  sessionSize : UInt64 := 15
  matchPause : UInt64 := 100
  mismatchPause : UInt64 := 500
  /-- Fixes the order of the prompts. -/
  seed : Option UInt64 := none
deriving DecidableEq, Repr

/-- Where shortcuts come from. -/
structure CatalogSettings where
  /-- Start with the built-in shortcuts. -/
  builtin : Bool := true
  /-- Catalog files to add, in order. -/
  files : List String := []
  /-- The contexts to drill; none means all. -/
  contexts : List String := []
deriving DecidableEq, Repr

/-- How the screen looks. -/
structure ScreenSettings where
  /-- Pictures per second. -/
  refreshRate : UInt32 := 60
  theme : Theme := .dark
deriving DecidableEq, Repr

/-- What is logged where. -/
structure LogSettings where
  level : String := "info"
  /-- Nothing is logged without a file. -/
  file : Option String := none
deriving DecidableEq, Repr

/-- All settings. -/
structure Settings where
  drill : DrillSettings := {}
  catalog : CatalogSettings := {}
  screen : ScreenSettings := {}
  log : LogSettings := {}
deriving DecidableEq, Repr

namespace Settings

/-- Microseconds between two pictures; a rate of zero counts as one. -/
def refreshInterval (s : Settings) : Nat := 1000000 / max s.screen.refreshRate.toNat 1

end Settings

/-- Pauses after a verdict, in milliseconds. -/
structure Pacing where
  afterMatch : Nat := 100
  afterMismatch : Nat := 500
deriving DecidableEq, Repr

/-- The pauses that the settings ask for. -/
def Settings.pacing (s : Settings) : Pacing :=
  { afterMatch := s.drill.matchPause.toNat, afterMismatch := s.drill.mismatchPause.toNat }

end ChordDrill
