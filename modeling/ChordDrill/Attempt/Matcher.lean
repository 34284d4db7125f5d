import ChordDrill.Attempt.Verdict

/-!
# ChordDrill.Attempt.Matcher

The live matcher of one attempt. It compares motions with the expected combo as they come, gives
a verdict on the first one that differs or on the one that completes the combo, and then swallows
motions until as many keys were let go as were pressed.

* `Matcher.new`, `Matcher.idle` — a matcher for a combo, and one that waits for nothing.
* `Matcher.feed`                — what one motion causes.
* `Matcher.feedAll`             — what a list of motions causes.
-/

namespace ChordDrill.Attempt

/-- What a matcher is doing. -/
inductive Stage where
  /-- No combo is loaded; motions are ignored. -/
  | idle
  /-- Motions are compared with the expected combo. -/
  | awaitingMotion
  /-- The combo was completed; left within the same feed. -/
  | matched
  /-- A motion differed; left within the same feed. -/
  | mismatched
  /-- The verdict is given, and keys are still held. -/
  | drainingPressed
  /-- Nothing is held any more; the attempt is over. -/
  | readyForNext
deriving DecidableEq, Repr

/-- What a single motion caused. -/
inductive Notice where
  /-- The motion was added to those entered. -/
  | accepted (m : Motion)
  | verdict (v : Verdict)
  | readyForNext
deriving DecidableEq, Repr

/-- The state of one attempt. -/
structure Matcher where
  expected : List Motion
  /-- The motions compared so far. -/
  entered : List Motion := []
  /-- Presses not yet answered by a release. -/
  pressed : Nat := 0
  stage : Stage := .awaitingMotion
  verdict : Option Verdict := none
deriving DecidableEq, Repr

namespace Matcher

def new (expected : List Motion) : Matcher := { expected := expected }

/-- A matcher with nothing to compare against. -/
def idle : Matcher := { expected := [], stage := .idle }

/-- Count a press up and a release down, never below zero. -/
def track (s : Matcher) : Motion → Matcher
  | .press _ => { s with pressed := s.pressed + 1 }
  | .release _ => { s with pressed := s.pressed - 1 }

/-- Add a motion to those entered. -/
def enter (s : Matcher) (m : Motion) : Matcher := { s.track m with entered := s.entered ++ [m] }

/-- The place of the combo that the motion entered last is compared with; beyond the end of the
combo nothing is compared. -/
def place? (s : Matcher) : Option Nat :=
  if s.expected.length < s.entered.length then none else some (s.entered.length - 1)

/-- The motion entered last, `m`, lies beyond the end of the combo or differs from the one there. -/
def diverged (s : Matcher) (m : Motion) : Bool :=
  match s.place? with
  | none => true
  | some i => s.expected[i]? != some m

/-- The verdict on the motions entered, the last of which is `m`; `none` while they are a proper
beginning of the combo. -/
def judge (s : Matcher) (m : Motion) : Option Verdict :=
  if s.diverged m then some (.mismatched s.expected s.entered)
  else if s.entered.length = s.expected.length then some (.matched s.expected)
  else none

/-- Take note of a verdict. -/
def conclude (s : Matcher) (v : Verdict) : Matcher :=
  { s with verdict := some v, stage := if v.isMatch then .matched else .mismatched }

/-- After the verdict: the attempt is over once as many releases as presses were seen. -/
def drain (s : Matcher) : List Notice × Matcher :=
  if s.pressed = 0 then ([.readyForNext], { s with stage := .readyForNext })
  else ([], { s with stage := .drainingPressed })

/-- Feed one motion, and report what it caused. -/
def feed (s : Matcher) (m : Motion) : List Notice × Matcher :=
  match s.stage with
  | .idle | .readyForNext | .matched | .mismatched => ([], s)
  | .awaitingMotion =>
    let s := s.enter m
    match s.judge m with
    | none => ([.accepted m], s)
    | some v =>
      let (after, s) := (s.conclude v).drain
      (.accepted m :: .verdict v :: after, s)
  | .drainingPressed => (s.track m).drain

/-- Feed a list of motions, and report everything they caused. -/
def feedAll (s : Matcher) : List Motion → List Notice × Matcher
  | [] => ([], s)
  | m :: ms =>
    let (first, s) := s.feed m
    let (rest, s) := s.feedAll ms
    (first ++ rest, s)

/-! ## What each step leaves alone -/

variable (s : Matcher) (m : Motion) (v : Verdict)

@[simp] theorem expected_track : (s.track m).expected = s.expected := by cases m <;> rfl

@[simp] theorem entered_track : (s.track m).entered = s.entered := by cases m <;> rfl

@[simp] theorem verdict_track : (s.track m).verdict = s.verdict := by cases m <;> rfl

@[simp] theorem stage_track : (s.track m).stage = s.stage := by cases m <;> rfl

@[simp] theorem expected_enter : (s.enter m).expected = s.expected := expected_track s m

@[simp] theorem entered_enter : (s.enter m).entered = s.entered ++ [m] := rfl

@[simp] theorem verdict_enter : (s.enter m).verdict = s.verdict := verdict_track s m

@[simp] theorem stage_enter : (s.enter m).stage = s.stage := stage_track s m

/-- Draining ends the attempt or goes on, by the count alone. -/
theorem drain_cases :
    (s.pressed = 0 ∧ s.drain = ([.readyForNext], { s with stage := .readyForNext })) ∨
    (s.pressed ≠ 0 ∧ s.drain = ([], { s with stage := .drainingPressed })) := by
  unfold drain
  split
  · rename_i h
    exact .inl ⟨h, rfl⟩
  · rename_i h
    exact .inr ⟨h, rfl⟩

/-! ## One feed, stage by stage -/

section

variable {s : Matcher} {m : Motion} {v : Verdict}

theorem feed_undecided (hs : s.stage = .awaitingMotion) (hj : (s.enter m).judge m = none) :
    s.feed m = ([.accepted m], s.enter m) := by
  simp only [feed, hs, hj]

theorem feed_decided (hs : s.stage = .awaitingMotion) (hj : (s.enter m).judge m = some v) :
    s.feed m = (.accepted m :: .verdict v :: ((s.enter m).conclude v).drain.1,
      ((s.enter m).conclude v).drain.2) := by
  simp only [feed, hs, hj]

theorem feed_draining (hs : s.stage = .drainingPressed) : s.feed m = (s.track m).drain := by
  simp only [feed, hs]

theorem feed_ready (hs : s.stage = .readyForNext) : s.feed m = ([], s) := by
  simp only [feed, hs]

end

theorem feedAll_append (s : Matcher) (xs ys : List Motion) :
    s.feedAll (xs ++ ys) = ((s.feedAll xs).1 ++ ((s.feedAll xs).2.feedAll ys).1,
      ((s.feedAll xs).2.feedAll ys).2) := by
  induction xs generalizing s with
  | nil => rfl
  | cons x xs ih => simp only [List.cons_append, feedAll, ih, List.append_assoc]

theorem feedAll_snoc (s : Matcher) (xs : List Motion) (m : Motion) :
    s.feedAll (xs ++ [m]) =
      ((s.feedAll xs).1 ++ ((s.feedAll xs).2.feed m).1, ((s.feedAll xs).2.feed m).2) := by
  rw [feedAll_append]
  simp only [feedAll, List.append_nil]

end Matcher

end ChordDrill.Attempt
