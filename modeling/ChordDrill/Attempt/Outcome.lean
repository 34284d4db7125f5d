import ChordDrill.Attempt.Verdict

/-!
# ChordDrill.Attempt.Outcome

Attempts judged as a whole. `divergence` is the place of the first motion that the combo does not
have there, and `outcome` is the verdict on a complete list of motions, without a matcher.
-/

namespace ChordDrill.Attempt

/-- The place of the first motion that differs from the combo or lies beyond its end. -/
def divergence : List Motion → List Motion → Option Nat
  | _, [] => none
  | [], _ :: _ => some 0
  | e :: es, m :: ms => if e = m then (divergence es ms).map (· + 1) else some 0

/-- The verdict on a list of motions, and the place of the motion that decides it. There is none
while the motions are empty or a proper beginning of the combo. -/
def outcome (expected motions : List Motion) : Option (Verdict × Nat) :=
  if expected ≠ [] ∧ motions.take expected.length = expected then
    some (.matched expected, expected.length - 1)
  else
    (divergence expected motions).map fun d =>
      (.mismatched expected (motions.take (d + 1)), d)

end ChordDrill.Attempt
