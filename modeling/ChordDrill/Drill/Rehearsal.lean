import ChordDrill.App
import ChordDrill.Drill

/-!
# ChordDrill.Drill.Rehearsal

A drill beside a scripted user. The user enters an attempt when a prompt appears; what is left of
the attempt once the session is over arrives before the next prompt, which drops it. An attempt
that runs out too early ends the drill.

* `Script`        — what the user does.
* `Rehearsal.run` — the drill, the application and the labels after the last step.
-/

namespace ChordDrill.Drill

/-- How the user gives up. -/
inductive Ending where
  | cancel
  | hangUp
deriving DecidableEq, Repr

/-- What the user does. -/
structure Script where
  /-- The motions for each prompt. -/
  attempts : List (List Motion) := []
  /-- What happens when an attempt runs out. -/
  ending : Ending := .cancel
  /-- The cancel flag is up from the start. -/
  cancelFirst : Bool := false
  /-- The flag goes up after this many verdicts. -/
  cancelAfter : Option Nat := none
  /-- Nobody receives events. -/
  unheard : Bool := false
deriving DecidableEq, Repr

/-- The motions of an attempt up to the one that ends the session, and those after it. -/
def splitAttempt (s : Attempt.Matcher) : List Motion → List Motion × List Motion
  | [] => ([], [])
  | m :: ms =>
    let s := (s.feed m).2
    if s.stage = .readyForNext then ([m], ms)
    else
      let (during, after) := splitAttempt s ms
      (m :: during, after)

/-- A drill, the application that follows it, and the user. -/
structure Rehearsal where
  drill : Drill
  app : App
  /-- The progress label after each event. -/
  labels : List String := []
  /-- Motions that come after the session is over. -/
  late : List Motion := []

namespace Rehearsal

def start (s : Script) (settings : Settings) (actions : List Action) : Rehearsal :=
  { drill := {
      deck := actions
      line := { cancelled := s.cancelFirst }
      heard := !s.unheard }
    app := .new settings actions.length }

/-- Send motions to the drill. -/
def send (r : Rehearsal) (ms : List Motion) : Rehearsal :=
  { r with drill := r.drill.perform (ms.map .send) }

/-- What the user does when an event arrives. -/
def react (s : Script) (r : Rehearsal) : Event → Rehearsal
  | .prompt action number =>
    let (during, late) := splitAttempt (.new action.combo) (s.attempts.getD (number - 1) [])
    { r.send during with app := r.app.observeAll during, late := late }
  | .verdict _ =>
    if s.cancelAfter = some (r.app.matched + r.app.mismatched) then
      { r with drill := r.drill.act .cancel }
    else r
  | .readyForNext => { r.send r.late with late := [] }
  | .motion _ _ | .finished _ => r

/-- Pass an event to the application, then to the user. -/
def hear (s : Script) (r : Rehearsal) (e : Event) : Rehearsal :=
  let app := r.app.receive e
  react s { r with app := app, labels := r.labels ++ [app.progress] } e

/-- The rehearsal after the attempt ran out. -/
def giveUp (s : Script) (r : Rehearsal) : Rehearsal :=
  match s.ending with
  | .cancel => { r with drill := r.drill.perform [.cancel, .timeout] }
  | .hangUp => { r with drill := r.drill.act .hangUp }

/-- The next step of the drill with what it causes; where the drill waits, the user gives up. -/
def step (s : Script) (r : Rehearsal) : Option Rehearsal :=
  match r.drill.step with
  | some d =>
    let fresh := d.events.drop r.drill.events.length
    some (fresh.foldl (hear s) { r with drill := d })
  | none =>
    match r.drill.phase with
    | .stopped _ => none
    | _ => some (giveUp s r)

/-- Up to `n` steps. -/
def steps (s : Script) : Nat → Rehearsal → Rehearsal
  | 0, r => r
  | n + 1, r =>
    match step s r with
    | some r => steps s n r
    | none => r

/-- A bound on the steps of a rehearsal: each motion of the script adds what a motion in the queue
can cause, and giving up adds a look at the flag. -/
def limit (s : Script) (r : Rehearsal) : Nat := r.drill.weight + 8 * s.attempts.flatten.length + 4

/-- The whole rehearsal. -/
def run (s : Script) (settings : Settings) (actions : List Action) : Rehearsal :=
  let r := start s settings actions
  steps s (limit s r) r

/-- How the drill ended. -/
def result? (r : Rehearsal) : Option (Except Stop Summary) :=
  match r.drill.phase with
  | .stopped result => some result
  | _ => none

end Rehearsal

end ChordDrill.Drill
