import ChordDrill.Motion

/-!
# ChordDrill.Attempt.Verdict

The outcome of one attempt at a combo.
-/

namespace ChordDrill.Attempt

/-- The outcome of one attempt. -/
inductive Verdict where
  | matched (expected : List Motion)
  | mismatched (expected entered : List Motion)
deriving DecidableEq, Repr

namespace Verdict

def isMatch : Verdict → Bool
  | .matched _ => true
  | .mismatched _ _ => false

/-- The combo that was to be entered. -/
def expected : Verdict → List Motion
  | .matched e => e
  | .mismatched e _ => e

end Verdict

end ChordDrill.Attempt
