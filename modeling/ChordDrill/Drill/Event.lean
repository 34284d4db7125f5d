import ChordDrill.Attempt.Verdict
import ChordDrill.Catalog

/-!
# ChordDrill.Drill.Event

What a drill tells the screen, and the summary at its end.
-/

namespace ChordDrill.Drill

/-- The attempts of a drill, in order. -/
structure Summary where
  attempts : List (Action × Attempt.Verdict) := []
deriving DecidableEq, Repr

namespace Summary

/-- The summary with one more attempt. -/
def record (s : Summary) (a : Action) (v : Attempt.Verdict) : Summary := ⟨s.attempts ++ [(a, v)]⟩

def total (s : Summary) : Nat := s.attempts.length

def matched (s : Summary) : Nat := s.attempts.countP fun a => a.2.isMatch

def mismatched (s : Summary) : Nat := s.total - s.matched

/-- The attempts that failed, in order. -/
def misses (s : Summary) : List (Action × Attempt.Verdict) :=
  s.attempts.filter fun a => !a.2.isMatch

theorem matched_le_total (s : Summary) : s.matched ≤ s.total := List.countP_le_length

end Summary

/-- A notification for the screen. -/
inductive Event where
  /-- A new shortcut is up; prompts are counted from one. -/
  | prompt (action : Action) (number : Nat)
  /-- A motion was added to those entered. -/
  | motion (m : Motion) (entered : List Motion)
  | verdict (v : Attempt.Verdict)
  /-- All keys were let go and the pause is over. -/
  | readyForNext
  | finished (s : Summary)
deriving DecidableEq, Repr

end ChordDrill.Drill
