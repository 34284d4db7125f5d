import ChordDrill.Key.Tally
import ChordDrill.Motion

/-!
# ChordDrill.Keyboard

What the trainer knows about the keyboard: the keys held in the order of their presses, how often
each key was pressed, and the keys called out on the screen. Motions never touch the hints, and
hints touch nothing else.
-/

namespace ChordDrill

/-- The keyboard as seen through its motions. -/
structure Keyboard where
  /-- Keys held, in the order in which they went down. -/
  pressed : List Key := []
  /-- Presses seen per key. -/
  presses : Tally := {}
  /-- Keys called out, for instance those of the expected combo. -/
  hinted : List Key := []
  /-- Motions seen. There is no bound on them here; a counter of 64 bits holds those of any run. -/
  motions : Nat := 0
deriving DecidableEq, Repr

namespace Keyboard

/-- Take note of a motion. A press of a held key counts, and does not move the key. -/
def observe (s : Keyboard) (m : Motion) : Keyboard :=
  let s := { s with motions := s.motions + 1 }
  match m with
  | .press k =>
    { s with
      presses := s.presses.bump k
      pressed := if k ∈ s.pressed then s.pressed else s.pressed ++ [k] }
  | .release k => { s with pressed := s.pressed.filter (· ≠ k) }

/-- Take note of several motions. -/
def observeAll (s : Keyboard) (ms : List Motion) : Keyboard := ms.foldl observe s

def isPressed (s : Keyboard) (k : Key) : Bool := k ∈ s.pressed

def isHinted (s : Keyboard) (k : Key) : Bool := k ∈ s.hinted

/-- How often a key went down. -/
def pressCount (s : Keyboard) (k : Key) : Nat := s.presses.count k

def setHints (s : Keyboard) (ks : List Key) : Keyboard := { s with hinted := ks }

def clearHints (s : Keyboard) : Keyboard := { s with hinted := [] }

/-- Forget everything, the hints too. -/
def reset (_ : Keyboard) : Keyboard := {}

/-- What can happen to the state. -/
inductive Act where
  | motion (m : Motion)
  | setHints (ks : List Key)
  | clearHints
  | reset
deriving DecidableEq, Repr

def act (s : Keyboard) : Act → Keyboard
  | .motion m => s.observe m
  | .setHints ks => s.setHints ks
  | .clearHints => s.clearHints
  | .reset => s.reset

def actAll (s : Keyboard) (acts : List Act) : Keyboard := acts.foldl act s

theorem observeAll_append (s : Keyboard) (ms ms' : List Motion) :
    s.observeAll (ms ++ ms') = (s.observeAll ms).observeAll ms' := List.foldl_append

theorem observeAll_snoc (s : Keyboard) (ms : List Motion) (m : Motion) :
    s.observeAll (ms ++ [m]) = (s.observeAll ms).observe m := s.observeAll_append ms [m]

theorem actAll_snoc (s : Keyboard) (acts : List Act) (a : Act) :
    s.actAll (acts ++ [a]) = (s.actAll acts).act a := List.foldl_append

theorem mem_pressed_observe (s : Keyboard) (m : Motion) (k : Key) :
    k ∈ (s.observe m).pressed ↔ m = .press k ∨ (k ∈ s.pressed ∧ m ≠ .release k) := by
  cases m with
  | press j =>
    by_cases hj : j ∈ s.pressed
    · simp only [observe, hj, if_true]
      constructor
      · intro hk; exact .inr ⟨hk, by simp⟩
      · rintro (h | h)
        · cases h; exact hj
        · exact h.1
    · simp only [observe, hj, if_false, List.mem_append, List.mem_singleton]
      constructor
      · rintro (h | h)
        · exact .inr ⟨h, by simp⟩
        · exact .inl (by rw [h])
      · rintro (h | h)
        · cases h; exact .inr rfl
        · exact .inl h.1
  | release j =>
    simp only [observe, List.mem_filter, decide_eq_true_eq, ne_eq, reduceCtorEq, false_or,
      Motion.release.injEq]
    constructor
    · rintro ⟨h, hne⟩; exact ⟨h, fun e => hne e.symm⟩
    · rintro ⟨h, hne⟩; exact ⟨h, fun e => hne e.symm⟩

theorem pressed_press_of_mem {s : Keyboard} {k : Key} (h : k ∈ s.pressed) :
    (s.observe (.press k)).pressed = s.pressed := if_pos h

theorem pressed_press_of_notMem {s : Keyboard} {k : Key} (h : k ∉ s.pressed) :
    (s.observe (.press k)).pressed = s.pressed ++ [k] := if_neg h

theorem pressed_release (s : Keyboard) (k : Key) :
    (s.observe (.release k)).pressed = s.pressed.filter (· ≠ k) := rfl

@[simp] theorem hinted_observe (s : Keyboard) (m : Motion) : (s.observe m).hinted = s.hinted := by
  cases m <;> rfl

@[simp] theorem motions_observe (s : Keyboard) (m : Motion) :
    (s.observe m).motions = s.motions + 1 := by
  cases m <;> rfl

end Keyboard

end ChordDrill
