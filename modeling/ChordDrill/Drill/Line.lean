import ChordDrill.Motion

/-!
# ChordDrill.Drill.Line

The line between the key listener and the drill: a queue of motions, whether anybody can still
send, and the flag that asks the drill to stop. Every wait looks at the flag first.
-/

namespace ChordDrill.Drill

/-- Why a drill stopped early. -/
inductive Stop where
  | cancelled
  | disconnected
deriving DecidableEq, Repr

/-- The text shown to the user. -/
def Stop.message : Stop → String
  | .cancelled => "Drill cancelled"
  | .disconnected => "Channel disconnected"

/-- A queue of motions with its two flags. -/
structure Line where
  /-- Motions sent and not yet received, oldest first. -/
  queue : List Motion := []
  /-- The sender is still there. -/
  senderOpen : Bool := true
  cancelled : Bool := false
deriving DecidableEq, Repr

namespace Line

/-- Send a motion; `false` once the sender is gone. -/
def send (l : Line) (m : Motion) : Bool × Line :=
  if l.senderOpen then (true, { l with queue := l.queue ++ [m] }) else (false, l)

/-- Drop all motions that wait, and tell how many they were. -/
def flush (l : Line) : Nat × Line := (l.queue.length, { l with queue := [] })

/-- What a look at the line gives to a receiver. -/
inductive Received where
  | motion (m : Motion)
  | stopped (s : Stop)
  /-- Nothing waits, and something may still come. -/
  | nothing
deriving DecidableEq, Repr

/-- Take the oldest motion, whatever the flag says. -/
def take (l : Line) : Received × Line :=
  match l.queue with
  | m :: queue => (.motion m, { l with queue := queue })
  | [] => (if l.senderOpen then .nothing else .stopped .disconnected, l)

/-- Receive a motion; the flag wins over the queue. -/
def receive (l : Line) : Received × Line :=
  if l.cancelled then (.stopped .cancelled, l) else l.take

/-- Sleep through a pause, however short, unless the flag is up. -/
def sleep (l : Line) : Except Stop Unit :=
  if l.cancelled then .error .cancelled else .ok ()

def cancel (l : Line) : Line := { l with cancelled := true }

def dropSender (l : Line) : Line := { l with senderOpen := false }

end Line

end ChordDrill.Drill
