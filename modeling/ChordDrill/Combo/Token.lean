import ChordDrill.Combo.Fault
import ChordDrill.Motion

/-!
# ChordDrill.Combo.Token

Tokens of a combo: a run of marks and the key it applies to.

* `Token.ofRuns`   — the token written by a run of marks and a run of other characters.
* `Token.motions`  — the motions a token stands for.
* `Token.act`      — what a token does to the held keys, or why it may not stand there.
* `replay`         — what a list of tokens does to them.
-/

namespace ChordDrill.Combo

/-- One token of a combo. -/
inductive Token where
  | press (k : Key)
  | release (k : Key)
  | tap (k : Key)
deriving DecidableEq, Repr

def isMark (c : Char) : Bool := c == pressMark || c == releaseMark

namespace Token

def key : Token → Key
  | .press k | .release k | .tap k => k

/-- The run of marks that opens a token. -/
def marks : Token → List Char
  | .press _ => [pressMark]
  | .release _ => [releaseMark]
  | .tap _ => [pressMark, releaseMark]

/-- The canonical written form. -/
def letters (t : Token) : List Char := t.marks ++ t.key.letters

/-- The motions a token stands for. -/
def motions : Token → List Motion
  | .press k => [.press k]
  | .release k => [.release k]
  | .tap k => [.press k, .release k]

/-- What a run of marks makes of a key. -/
def ofMarks? (run : List Char) : Option (Key → Token) :=
  if run = [pressMark, releaseMark] then some .tap
  else if run = [releaseMark] then some .release
  else if run = [pressMark] then some .press
  else none

/-- The token written by the marks `run` and the key text `raw`. The marks are judged first. -/
def ofRuns (run raw : List Char) : Except Fault Token :=
  match ofMarks? run with
  | none => .error (.invalidMotion run)
  | some make =>
    match Key.read? raw with
    | some k => .ok (make k)
    | none => .error (.unknownKey raw)

/-- The held keys after a token: a press needs its key up, a release needs it down, and a tap
leaves the held keys alone. -/
def act (held : List Key) : Token → Except Fault (List Key)
  | .press k => if k ∈ held then .error (.doublePress k) else .ok (k :: held)
  | .release k => if k ∈ held then .ok (held.filter (· ≠ k)) else .error (.releaseWithoutPress k)
  | .tap _ => .ok held

end Token

/-- The held keys after a list of tokens, or the fault of the first one out of place. -/
def replay (held : List Key) : List Token → Except Fault (List Key)
  | [] => .ok held
  | t :: ts =>
    match t.act held with
    | .ok held' => replay held' ts
    | .error e => .error e

end ChordDrill.Combo
