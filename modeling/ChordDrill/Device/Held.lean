import ChordDrill.Device.Record
import ChordDrill.Key.Scancode
import ChordDrill.Key.Tally
import ChordDrill.Motion

/-!
# ChordDrill.Device.Held

From key edges to motions. Several scancodes may stand for one key, so a key goes down with the
first of its scancodes and comes up with the last.

* `Held.translate` — the motion that one edge causes, if any.
* `Held.poll`      — the motions that the waiting bytes of several devices cause.
* `Held.pollAll`   — those of several polls.
* `Held.scancodesOf` — the scancodes of a key that are believed down.
-/

namespace ChordDrill.Device

/-- One change of a scancode, as the kernel reports it: 0 up, 2 repeated, anything else down. -/
structure Edge where
  code : Scancode
  value : Int32
deriving DecidableEq, Repr

/-- The scancodes believed down, and how many of them each key has. -/
structure Held where
  down : List Scancode := []
  counts : Tally := {}
deriving DecidableEq, Repr

namespace Held

/-- The motion that one edge causes. Repeats, edges that change nothing and edges of scancodes
without a key cause none. -/
def translate (h : Held) (e : Edge) : Option Motion × Held :=
  if e.value = 2 then (none, h)
  else if e.value = 0 then
    if e.code ∈ h.down then
      let h := { h with down := h.down.filter (· ≠ e.code) }
      match Key.ofScancode? e.code with
      | none => (none, h)
      | some k =>
        let n := h.counts.count k - 1
        if n = 0 then (some (.release k), { h with counts := h.counts.erase k })
        else (none, { h with counts := h.counts.insert k n })
    else (none, h)
  else if e.code ∈ h.down then (none, h)
  else
    let h := { h with down := e.code :: h.down }
    match Key.ofScancode? e.code with
    | none => (none, h)
    | some k =>
      let n := h.counts.count k + 1
      (if n = 1 then some (.press k) else none, { h with counts := h.counts.insert k n })

/-- The motions that a list of edges causes, in order. -/
def translateAll (h : Held) : List Edge → List Motion × Held
  | [] => ([], h)
  | e :: es =>
    let (m, h) := h.translate e
    let (ms, h) := h.translateAll es
    (m.toList ++ ms, h)

/-- The key edges among the records of one read. -/
def edgesOfRead (bytes : List UInt8) : List Edge :=
  (Record.decodeAll bytes).filterMap fun r =>
    if r.kind = keyKind then some ⟨r.code, r.value⟩ else none

/-- All key edges that wait in a device. -/
def edges (bytes : List UInt8) : List Edge := (reads bytes).flatMap edgesOfRead

/-- Read every device empty, one after the other, and translate all edges in that order. -/
def poll (h : Held) (devices : List (List UInt8)) : List Motion × Held :=
  h.translateAll (devices.flatMap edges)

/-- One poll after the other, each with the bytes that wait in every device. -/
def pollAll (h : Held) : List (List (List UInt8)) → List Motion × Held
  | [] => ([], h)
  | devices :: polls =>
    let (ms, h) := h.poll devices
    let (ms', h) := h.pollAll polls
    (ms ++ ms', h)

/-- The scancodes of a key that are believed down. -/
def scancodesOf (h : Held) (k : Key) : List Scancode :=
  h.down.filter fun code => Key.ofScancode? code = some k

/-- The scancodes believed down, in ascending order. -/
def ascending (h : Held) : List Scancode := h.down.mergeSort fun a b => a ≤ b

theorem translateAll_append (h : Held) (xs ys : List Edge) :
    h.translateAll (xs ++ ys) = ((h.translateAll xs).1 ++ ((h.translateAll xs).2.translateAll ys).1,
      ((h.translateAll xs).2.translateAll ys).2) := by
  induction xs generalizing h with
  | nil => rfl
  | cons x xs ih => simp only [List.cons_append, translateAll, ih, List.append_assoc]

theorem translateAll_snoc (h : Held) (xs : List Edge) (e : Edge) :
    h.translateAll (xs ++ [e]) =
      ((h.translateAll xs).1 ++ ((h.translateAll xs).2.translate e).1.toList,
        ((h.translateAll xs).2.translate e).2) := by
  rw [translateAll_append]
  simp only [translateAll, List.append_nil]

theorem pollAll_eq (h : Held) (polls : List (List (List UInt8))) :
    h.pollAll polls = h.translateAll (polls.flatMap fun devices => devices.flatMap edges) := by
  induction polls generalizing h with
  | nil => rfl
  | cons devices polls ih =>
    rw [List.flatMap_cons, translateAll_append, ← ih]
    rfl

end Held

end ChordDrill.Device
