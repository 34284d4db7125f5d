import ChordDrill.App
import ChordDrill.Device.Discovery

/-!
# ChordDrill.App.Turn

One turn of the main loop: motions, events, the picture, a keystroke, the cancel flag.

* `App.listen`  — choose the source of motions.
* `App.relay`   — show the motions that wait and send them on.
* `App.hear`    — take note of the events that wait.
* `App.collect` — what comes before the picture.
* `App.answer`  — what comes after it.
* `App.turn`    — a whole turn.
* `App.run`     — turns until one of them quits.
-/

namespace ChordDrill

/-- What one turn of the main loop finds. -/
structure Turn where
  /-- Motions from the keyboard. -/
  motions : List Motion := []
  /-- Events of the drill that wait. -/
  events : List Drill.Event := []
  /-- After these events the drill is gone. -/
  drillGone : Bool := false
  keystroke : Option Keystroke := none
  cancelled : Bool := false
deriving DecidableEq, Repr

namespace App

/-- Choose the input devices as the source of motions, if they open. -/
def listen (a : App) (l : Device.Listing) : App :=
  match Device.openAll l with
  | .ok _ => { a.setStatus ("Evdev: " ++ Device.status l) with source := Device.sourceName }
  | .error _ => a.setStatus "Evdev unavailable - using device_query"

/-- Take the motions that wait, one after the other: show each, then send it on to the drill. -/
def relay (a : App) : List Motion → List Motion × App
  | [] => ([], a)
  | m :: ms =>
    let (sent, a) := (a.observe m).relay ms
    (m :: sent, a)

/-- A drill that goes away before it is over ends the application. -/
def miss (a : App) : App := if a.mode = .training then a.quit else a

/-- Take the events that wait, one after the other. The drill is missed only behind the last. -/
def hear (a : App) (gone : Bool) : List Drill.Event → App
  | [] => if gone then a.miss else a
  | e :: es => (a.receive e).hear gone es

/-- Motions first, then all events, then the end of the drill. -/
def collect (a : App) (t : Turn) : App := (a.relay t.motions).2.hear t.drillGone t.events

/-- The keystroke, then the cancel flag. -/
def answer (a : App) (t : Turn) : App :=
  let a :=
    match t.keystroke with
    | some k => a.press k
    | none => a
  if t.cancelled then a.quit else a

/-- The motions of a turn that are to go on to the drill; `relay` sends just these. -/
def forwarded (t : Turn) : List Motion := t.motions

/-- A whole turn. -/
def turn (a : App) (t : Turn) : App := (a.collect t).answer t

/-- Turns until one of them quits: the motions passed on, the turns taken, and the application. -/
def run (a : App) : List Turn → List Motion × Nat × App
  | [] => ([], 0, a)
  | t :: ts =>
    let sent := (a.relay t.motions).1
    let a := a.turn t
    if a.mode = .quitting then (sent, 1, a)
    else
      let (ms, n, a) := a.run ts
      (sent ++ ms, n + 1, a)

theorem relay_eq (a : App) (ms : List Motion) : a.relay ms = (ms, a.observeAll ms) := by
  induction ms generalizing a with
  | nil => rfl
  | cons m ms ih => rw [relay, ih]; rfl

theorem hear_eq (a : App) (gone : Bool) (es : List Drill.Event) :
    a.hear gone es = if gone then (a.receiveAll es).miss else a.receiveAll es := by
  induction es generalizing a with
  | nil => rfl
  | cons e es ih => rw [hear, ih]; rfl

theorem collect_eq (a : App) (t : Turn) :
    a.collect t =
      if t.drillGone then ((a.observeAll t.motions).receiveAll t.events).miss
      else (a.observeAll t.motions).receiveAll t.events := by
  rw [collect, relay_eq, hear_eq]

end App

end ChordDrill
