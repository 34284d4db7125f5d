import ChordDrill.Combo.Token

/-!
# ChordDrill.Combo.Reader

A lazy reader of combos. It yields one motion at a time and stops after the first fault.

* `Reader.next`     — the next motion or fault, and the reader behind it.
* `Reader.collect`  — all motions, or the first fault.
* `Reader.after`    — the reader after a number of calls.
* `parse`           — the motions of a whole combo.

Each call of `next` that reads a token takes at least one character, and a tap owes its release
to the following call; `Reader.size` counts both, so `collect` ends.
-/

namespace ChordDrill.Combo

/-- The number of UTF-8 bytes of a run of characters. -/
def byteLength (cs : List Char) : Nat := cs.foldr (fun c n => c.utf8Size + n) 0

/-- A combo read up to some place. -/
structure Reader where
  /-- Bytes read so far. -/
  cursor : Nat := 0
  /-- What is still to be read. -/
  rest : List Char
  /-- Keys pressed and not yet released. -/
  held : List Key := []
  /-- The release that a tap still owes. -/
  pending : Option Motion := none
  /-- A fault was reported. -/
  failed : Bool := false
deriving DecidableEq, Repr

namespace Reader

def ofText (s : String) : Reader := { rest := s.toList }

/-- The reader behind a token that applies: a tap yields its press and owes its release. -/
def accept (r : Reader) (held : List Key) : Token → Motion × Reader
  | .press k => (.press k, { r with held := held })
  | .release k => (.release k, { r with held := held })
  | .tap k => (.press k, { r with held := held, pending := some (.release k) })

/-- The longest run of marks that comes next. -/
def run (r : Reader) : List Char := r.rest.takeWhile isMark

/-- The longest run of other characters behind the marks. -/
def raw (r : Reader) : List Char := (r.rest.dropWhile isMark).takeWhile fun c => !isMark c

/-- The reader behind both runs. -/
def skip (r : Reader) : Reader :=
  { r with
    cursor := r.cursor + byteLength r.run + byteLength r.raw
    rest := (r.rest.dropWhile isMark).dropWhile fun c => !isMark c }

/-- Read the token made of the two runs. -/
def readToken (r : Reader) : Except Fault Motion × Reader :=
  match Token.ofRuns r.run r.raw with
  | .error e => (.error e, { r.skip with failed := true })
  | .ok t =>
    match t.act r.held with
    | .error e => (.error e, { r.skip with failed := true })
    | .ok held =>
      let (m, r') := r.skip.accept held t
      (.ok m, r')

/-- The next motion or fault, `none` at the end and after a fault. -/
def next (r : Reader) : Option (Except Fault Motion) × Reader :=
  match r.pending with
  | some m => (some (.ok m), { r with pending := none })
  | none =>
    if r.failed || r.rest.isEmpty then (none, r)
    else
      let (result, r') := r.readToken
      (some result, r')

/-- What is left to yield at most: two motions for each character, and the release owed. -/
def size (r : Reader) : Nat := 2 * r.rest.length + if r.pending.isSome then 1 else 0

/-- The two runs and what is behind them make up what is to be read. -/
theorem runs_append_skip (r : Reader) : r.run ++ (r.raw ++ r.skip.rest) = r.rest := by
  simp only [run, raw, skip, List.takeWhile_append_dropWhile]

/-- One of the two runs takes the first character. -/
theorem rest_skip_lt (r : Reader) (h : r.rest ≠ []) : r.skip.rest.length < r.rest.length := by
  cases hc : r.rest with
  | nil => exact absurd hc h
  | cons c cs =>
    simp only [skip, hc, List.length_cons]
    by_cases hm : isMark c = true
    · have h1 : (c :: cs).dropWhile isMark = cs.dropWhile isMark := by simp [List.dropWhile, hm]
      rw [h1]
      have h2 := (List.dropWhile_suffix (fun c => !isMark c) (l := cs.dropWhile isMark)).length_le
      have h3 := (List.dropWhile_suffix isMark (l := cs)).length_le
      omega
    · have h1 : (c :: cs).dropWhile isMark = c :: cs := by simp [List.dropWhile, hm]
      have h2 : (c :: cs).dropWhile (fun c => !isMark c) = cs.dropWhile fun c => !isMark c := by
        simp [List.dropWhile, hm]
      rw [h1, h2]
      have h3 := (List.dropWhile_suffix (fun c => !isMark c) (l := cs)).length_le
      omega

theorem rest_readToken (r : Reader) : r.readToken.2.rest = r.skip.rest := by
  unfold readToken
  split
  · rfl
  · split
    · rfl
    · rename_i t _ _ _ _
      cases t <;> rfl

/-- A call that yields something leaves less to yield. -/
theorem size_next_lt {r r' : Reader} {x : Except Fault Motion} (h : r.next = (some x, r')) :
    r'.size < r.size := by
  unfold next at h
  split at h
  · rename_i m hm
    cases h
    simp [size, hm]
  · rename_i hp
    split at h
    · cases h
    · rename_i hne
      have hrest : r.rest ≠ [] := by
        intro he
        simp [he] at hne
      have hlt := rest_skip_lt r hrest
      rw [← rest_readToken] at hlt
      have hr' : r.readToken.2 = r' := by
        simp only [Prod.mk.injEq] at h
        exact h.2
      rw [← hr']
      simp only [size, hp]
      split <;> simp <;> omega

/-- All motions that are left, or the first fault. -/
def collect (r : Reader) : Except Fault (List Motion) :=
  match h : r.next with
  | (none, _) => .ok []
  | (some (.error e), _) => .error e
  | (some (.ok m), r') =>
    have : r'.size < r.size := size_next_lt h
    match r'.collect with
    | .ok ms => .ok (m :: ms)
    | .error e => .error e
termination_by r.size

/-- The reader after so many calls of `next`. -/
def after (r : Reader) : Nat → Reader
  | 0 => r
  | n + 1 => r.next.2.after n

end Reader

/-- The motions of a combo, or its first fault. -/
def parse (s : String) : Except Fault (List Motion) := (Reader.ofText s).collect

end ChordDrill.Combo
