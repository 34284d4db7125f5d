import ChordDrill.Key

/-!
# ChordDrill.Motion

A key going down or coming up, and the two marks that write it.
-/

namespace ChordDrill

/-- Written before a pressed key. -/
def pressMark : Char := '↓'

/-- Written before a released key. -/
def releaseMark : Char := '↑'

/-- A single key going down or coming up. -/
inductive Motion where
  | press (k : Key)
  | release (k : Key)
deriving DecidableEq, Repr

namespace Motion

/-- The key a motion acts on. -/
def key : Motion → Key
  | .press k | .release k => k

def isPress : Motion → Bool
  | .press _ => true
  | .release _ => false

def isRelease : Motion → Bool
  | .press _ => false
  | .release _ => true

/-- The mark and the name of the key. -/
def letters : Motion → List Char
  | .press k => pressMark :: k.letters
  | .release k => releaseMark :: k.letters

/-- The written form, `↓key` or `↑key`. -/
def text (m : Motion) : String := String.ofList m.letters

/-- The distinct keys that a list of motions touches, in vocabulary order. -/
def keys (ms : List Motion) : List Key := Key.ordered (ms.map key)

end Motion

end ChordDrill
