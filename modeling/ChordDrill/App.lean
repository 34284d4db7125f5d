import ChordDrill.Drill.Event
import ChordDrill.Keyboard
import ChordDrill.Settings

/-!
# ChordDrill.App

What the screen shows, kept up to date by the events of the drill, the motions of the keyboard and
the keystrokes of the terminal.

* `App.receive` — take note of an event.
* `App.observe` — take note of a motion.
* `App.press`   — answer a keystroke; only quitting is bound.
-/

namespace ChordDrill

/-- How far the application is. -/
inductive Mode where
  | training
  | finished
  | quitting
deriving DecidableEq, Repr

/-- The word on the screen. -/
def Mode.label : Mode → String
  | .training => "TRAINING"
  | .finished => "FINISHED"
  | .quitting => "QUITTING"

/-- What happened to a terminal key. -/
inductive Stroke where
  | press
  | repeated
  | release
deriving DecidableEq, Repr

/-- A keystroke as the terminal reports it. -/
structure Keystroke where
  /-- The character typed; other keys have none. -/
  letter : Option Char := none
  control : Bool := false
  stroke : Stroke := .press
deriving DecidableEq, Repr

/-- Whether a keystroke asks to quit. -/
def Keystroke.isQuit (k : Keystroke) : Bool :=
  k.control && (k.letter == some 'q' || k.letter == some 'Q')

/-- The application. -/
structure App where
  mode : Mode := .training
  settings : Settings := {}
  keyboard : Keyboard := {}
  /-- The shortcut that is prompted. -/
  current : Option Action := none
  /-- The number of the prompt, counted from one. -/
  number : Nat := 0
  deckSize : Nat := 0
  /-- The motions entered in the current attempt. -/
  entered : List Motion := []
  verdict : Option Attempt.Verdict := none
  matched : Nat := 0
  mismatched : Nat := 0
  /-- The results, once the drill is over. -/
  summary : Option Drill.Summary := none
  /-- Where the motions come from. -/
  source : String := "none"
  status : Option String := none
  /-- Seconds since the status was set. -/
  statusAge : Option Nat := none
  /-- Seconds since the start. -/
  elapsed : Nat := 0
deriving DecidableEq, Repr

namespace App

def new (settings : Settings) (deckSize : Nat) : App := { settings, deckSize }

/-- Take note of an event of the drill. -/
def receive (a : App) : Drill.Event → App
  | .prompt action number =>
    { a with
      current := some action
      number := number
      entered := []
      verdict := none
      keyboard := a.keyboard.clearHints }
  | .motion _ entered => { a with entered := entered }
  | .verdict v =>
    { a with
      matched := if v.isMatch then a.matched + 1 else a.matched
      mismatched := if v.isMatch then a.mismatched else a.mismatched + 1
      keyboard := a.keyboard.setHints (Motion.keys v.expected)
      verdict := some v }
  | .readyForNext => a
  | .finished s =>
    { a with
      keyboard := a.keyboard.clearHints
      current := none
      summary := some s
      mode := if a.mode = .training then .finished else a.mode }

def receiveAll (a : App) (es : List Drill.Event) : App := es.foldl receive a

/-- Take note of a motion of the keyboard. -/
def observe (a : App) (m : Motion) : App := { a with keyboard := a.keyboard.observe m }

def observeAll (a : App) (ms : List Motion) : App := ms.foldl observe a

def quit (a : App) : App := { a with mode := .quitting }

/-- Answer a keystroke. A press quits if it asks to, and any press quits once all is over. -/
def press (a : App) (k : Keystroke) : App :=
  if k.stroke = .press ∧ (k.isQuit ∨ a.mode = .finished) then a.quit else a

/-- Set the status. -/
def setStatus (a : App) (message : String) : App :=
  { a with status := some message, statusAge := some 0 }

/-- The status, for three seconds. -/
def status? (a : App) : Option String :=
  match a.status, a.statusAge with
  | some message, some age => if age < 3 then some message else none
  | _, _ => none

/-- The number of the prompt and the verdicts so far. -/
def progress (a : App) : String :=
  toString a.number ++ "/" ++ toString a.deckSize ++ " | ✓ " ++ toString a.matched ++ " ✗ " ++
    toString a.mismatched

/-- A number with at least two digits. -/
def twoDigits (n : Nat) : String := if n < 10 then "0" ++ toString n else toString n

/-- Minutes and seconds since the start. -/
def clock (a : App) : String := twoDigits (a.elapsed / 60) ++ ":" ++ twoDigits (a.elapsed % 60)

@[simp] theorem keyboard_observeAll (a : App) (ms : List Motion) :
    (a.observeAll ms).keyboard = a.keyboard.observeAll ms := by
  induction ms generalizing a with
  | nil => rfl
  | cons m ms ih => exact ih (a.observe m)

@[simp] theorem mode_observeAll (a : App) (ms : List Motion) : (a.observeAll ms).mode = a.mode := by
  induction ms generalizing a with
  | nil => rfl
  | cons m ms ih => exact ih (a.observe m)

end App

end ChordDrill
