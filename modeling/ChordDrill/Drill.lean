import ChordDrill.Attempt.Matcher
import ChordDrill.Drill.Event
import ChordDrill.Drill.Line

/-!
# ChordDrill.Drill

The drill as a machine of small steps, each with at most one operation on the world around it: one
look at the cancel flag, one motion taken, or one event sent. Between two steps the world may do
anything, so a run is a list of `Act`s.

* `Drill`       — a drill with its line and the events it has sent.
* `Drill.step`  — the next step, `none` when the drill waits or is over.
* `Drill.act`   — a step of the drill or of the world.
* `Drill.settle` — all steps until the drill waits or is over.
-/

namespace ChordDrill

namespace Drill

/-- The attempt under way. -/
structure Session where
  action : Action
  matcher : Attempt.Matcher
deriving DecidableEq, Repr

def Session.new (a : Action) : Session := { action := a, matcher := .new a.combo }

/-- Where the drill stands. -/
inductive Phase where
  /-- About to draw the next shortcut. -/
  | choosing
  /-- Dropping motions from before the prompt. -/
  | flushing (a : Action)
  /-- About to prompt. -/
  | prompting (a : Action)
  /-- About to look at the cancel flag. -/
  | checking (s : Session)
  /-- Waiting for a motion, for a limited time. -/
  | waiting (s : Session)
  /-- With notices of the matcher still to pass on. -/
  | reporting (s : Session) (notices : List Attempt.Notice)
  /-- In the pause after the verdict, with all keys let go. -/
  | pausing (a : Action) (v : Attempt.Verdict)
  /-- About to close the attempt. -/
  | announcing (a : Action) (v : Attempt.Verdict)
  /-- With the attempt closed, about to note how it went. -/
  | recording (a : Action) (v : Attempt.Verdict)
  /-- About to send the summary. -/
  | closing
  | stopped (result : Except Stop Summary)

end Drill

/-- A drill, its line, and what it has sent. -/
structure Drill where
  /-- Shortcuts still to be prompted. -/
  deck : List Action
  /-- Prompts so far. -/
  number : Nat := 0
  summary : Drill.Summary := {}
  phase : Drill.Phase := .choosing
  line : Drill.Line := {}
  /-- Somebody still receives events. -/
  heard : Bool := true
  /-- Events sent, in order. -/
  events : List Drill.Event := []

namespace Drill

/-- End the drill early. -/
def stop (d : Drill) (e : Stop) : Drill := { d with phase := .stopped (.error e) }

/-- Send an event and go on in a phase; without a receiver the drill stops. -/
def emit (d : Drill) (e : Event) (next : Phase) : Drill :=
  if d.heard then { d with events := d.events ++ [e], phase := next } else d.stop .disconnected

/-- The next step of the drill. -/
def step (d : Drill) : Option Drill :=
  match d.phase with
  | .choosing =>
    match d.deck with
    | [] => some { d with phase := .closing }
    | a :: deck => some { d with deck := deck, number := d.number + 1, phase := .flushing a }
  | .flushing a =>
    match d.line.queue with
    | [] => some { d with phase := .prompting a }
    | _ :: queue => some { d with line := { d.line with queue := queue } }
  | .prompting a => some (d.emit (.prompt a d.number) (.checking (.new a)))
  | .checking s =>
    if d.line.cancelled then some (d.stop .cancelled) else some { d with phase := .waiting s }
  | .waiting s =>
    match d.line.take with
    | (.motion m, line) =>
      let fed := s.matcher.feed m
      some { d with line := line, phase := .reporting { s with matcher := fed.2 } fed.1 }
    | (.stopped e, _) => some (d.stop e)
    | (.nothing, _) => none
  | .reporting s [] => some { d with phase := .checking s }
  | .reporting s (.accepted m :: notices) =>
    some (d.emit (.motion m s.matcher.entered) (.reporting s notices))
  | .reporting s (.verdict v :: notices) => some (d.emit (.verdict v) (.reporting s notices))
  | .reporting s (.readyForNext :: notices) =>
    match s.matcher.verdict with
    | some v => some { d with phase := .pausing s.action v }
    | none => some { d with phase := .reporting s notices }
  | .pausing a v =>
    match d.line.sleep with
    | .ok _ => some { d with phase := .announcing a v }
    | .error e => some (d.stop e)
  | .announcing a v => some (d.emit .readyForNext (.recording a v))
  | .recording a v => some { d with summary := d.summary.record a v, phase := .choosing }
  | .closing => some (d.emit (.finished d.summary) (.stopped (.ok d.summary)))
  | .stopped _ => none

/-- A step of the drill or of the world around it. -/
inductive Act where
  /-- The drill takes its next step, if it can. -/
  | step
  /-- The time of a wait is up, and the flag is looked at again. -/
  | timeout
  | send (m : Motion)
  | cancel
  /-- The sender of motions goes away. -/
  | hangUp
  /-- The receiver of events goes away. -/
  | leave
deriving DecidableEq, Repr

/-- One act. -/
def act (d : Drill) : Act → Drill
  | .step => d.step.getD d
  | .timeout =>
    match d.phase, d.line.take.1 with
    | .waiting s, .nothing => { d with phase := .checking s }
    | _, _ => d
  | .send m => { d with line := (d.line.send m).2 }
  | .cancel => { d with line := d.line.cancel }
  | .hangUp => { d with line := d.line.dropSender }
  | .leave => { d with heard := false }

/-- A run. -/
def perform (d : Drill) (acts : List Act) : Drill := acts.foldl act d

/-! ## Running on its own -/

/-- What a phase can still do by itself, the queue and the deck apart. -/
def Phase.rank : Phase → Nat
  | .choosing => 2
  | .flushing _ => 8
  | .prompting _ => 7
  | .checking _ => 6
  | .waiting _ => 5
  | .reporting _ notices => 7 + notices.length
  | .pausing _ _ => 5
  | .announcing _ _ => 4
  | .recording _ _ => 3
  | .closing => 1
  | .stopped _ => 0

/-- A bound on the steps that the drill can take without the world. -/
def weight (d : Drill) : Nat := 7 * d.deck.length + 8 * d.line.queue.length + d.phase.rank

/-- Take up to `n` steps. -/
def steps : Nat → Drill → Drill
  | 0, d => d
  | n + 1, d =>
    match d.step with
    | some d' => steps n d'
    | none => d

/-- All steps until the drill waits or is over. -/
def settle (d : Drill) : Drill := steps d.weight d

/-- A feed causes at most three notices. -/
theorem length_feed_le (s : Attempt.Matcher) (m : Motion) : (s.feed m).1.length ≤ 3 := by
  unfold Attempt.Matcher.feed
  split
  · simp
  · simp
  · simp
  · simp
  · dsimp only
    split
    · simp
    · simp only [Attempt.Matcher.drain]
      split <;> simp
  · simp only [Attempt.Matcher.drain]
    split <;> simp

theorem weight_emit_le (d : Drill) (e : Event) (next : Phase) :
    (d.emit e next).weight ≤ 7 * d.deck.length + 8 * d.line.queue.length + next.rank := by
  unfold emit
  split <;> simp [weight, stop, Phase.rank]

/-- A step leaves less to do. -/
theorem weight_step_lt {d d' : Drill} (h : d.step = some d') : d'.weight < d.weight := by
  unfold step at h
  split at h
  · rename_i hp
    split at h
    · cases h; simp [weight, hp, Phase.rank]
    · rename_i a deck hd
      cases h
      simp only [weight, hp, hd, Phase.rank, List.length_cons]
      omega
  · rename_i a hp
    split at h
    · cases h; simp [weight, hp, Phase.rank]
    · rename_i m queue hq
      cases h
      simp only [weight, hp, hq, Phase.rank, List.length_cons]
      omega
  · rename_i a hp
    cases h
    have := weight_emit_le d (.prompt a d.number) (.checking (.new a))
    simp only [weight, hp, Phase.rank] at *
    omega
  · rename_i s hp
    split at h
    · cases h; simp [weight, hp, Phase.rank, stop]
    · cases h; simp [weight, hp, Phase.rank]
  · rename_i s hp
    split at h
    · rename_i m line ht
      simp only [Option.some.injEq] at h
      subst h
      have hl := length_feed_le s.matcher m
      have hq : d.line.queue.length = line.queue.length + 1 := by
        unfold Line.take at ht
        split at ht
        · rename_i m' queue hq
          cases ht
          simp [hq]
        · rename_i hq
          split at ht <;> cases ht
      simp only [weight, hp, hq, Phase.rank]
      omega
    · cases h; simp [weight, hp, Phase.rank, stop]
    · cases h
  · rename_i s hp
    cases h
    simp [weight, hp, Phase.rank]
  · rename_i s m notices hp
    cases h
    have := weight_emit_le d (.motion m s.matcher.entered) (.reporting s notices)
    simp only [weight, hp, Phase.rank, List.length_cons] at *
    omega
  · rename_i s v notices hp
    cases h
    have := weight_emit_le d (.verdict v) (.reporting s notices)
    simp only [weight, hp, Phase.rank, List.length_cons] at *
    omega
  · rename_i s notices hp
    split at h <;> cases h <;> simp [weight, hp, Phase.rank]
    omega
  · rename_i a v hp
    split at h <;> cases h <;> simp [weight, hp, Phase.rank, stop]
  · rename_i a v hp
    cases h
    have := weight_emit_le d .readyForNext (.recording a v)
    simp only [weight, hp, Phase.rank] at *
    omega
  · rename_i a v hp
    cases h
    simp [weight, hp, Phase.rank]
  · rename_i hp
    cases h
    have := weight_emit_le d (.finished d.summary) (.stopped (.ok d.summary))
    simp only [weight, hp, Phase.rank] at *
    omega
  · cases h

theorem step_steps {n : Nat} {d : Drill} (h : d.weight ≤ n) : (steps n d).step = none := by
  induction n generalizing d with
  | zero =>
    cases hs : d.step with
    | none => exact hs
    | some d' =>
      have := weight_step_lt hs
      omega
  | succ n ih =>
    cases hs : d.step with
    | none => simp [steps, hs]
    | some d' =>
      have := weight_step_lt hs
      simp only [steps, hs]
      exact ih (by omega)

/-- A settled drill cannot step. -/
theorem step_settle (d : Drill) : d.settle.step = none := step_steps (Nat.le_refl _)

end Drill

end ChordDrill
