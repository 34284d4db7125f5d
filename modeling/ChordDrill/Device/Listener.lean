import ChordDrill.Device.Held

/-!
# ChordDrill.Device.Listener

A listener to several open devices. A poll reads each device until a read brings less than a whole
record, through one buffer that all reads share, and then translates the edges it has found.

* `Handle.read`      — one read: its bytes go to the front of the buffer, and what is behind stays.
* `Handle.drain`     — the reads of one device in one poll.
* `Listener.poll`    — one poll: a report of the motions sent, and the listener behind it.
* `Listener.pollAll` — several polls, each after new bytes have arrived.
-/

namespace ChordDrill.Device

/-- Why a read brings nothing. -/
inductive Refusal where
  /-- Nothing waits in a device node. -/
  | wouldBlock
  | failed
deriving DecidableEq, Repr

/-- An open device. -/
structure Handle where
  /-- Bytes that have arrived and were not read. -/
  unread : List UInt8 := []
  /-- The answer of a read that finds no bytes; at the end of a plain file there is no refusal. -/
  idle : Option Refusal := none
deriving DecidableEq, Repr

/-- The bytes that reads write to. -/
structure Buffer where
  bytes : List UInt8
  size_eq : bytes.length = readSize

namespace Buffer

def zeros : Buffer := ⟨List.replicate readSize 0, List.length_replicate⟩

/-- Write to the front, as far as there is room. What is behind stays. -/
def put (b : Buffer) (bs : List UInt8) : Buffer where
  bytes := bs.take readSize ++ b.bytes.drop bs.length
  size_eq := by
    have hb := b.size_eq
    simp only [List.length_append, List.length_take, List.length_drop]
    omega

/-- What was written lies in front, whatever was there before. -/
theorem take_put (b : Buffer) {bs : List UInt8} (h : bs.length ≤ readSize) :
    (b.put bs).bytes.take bs.length = bs := by
  have hput : (b.put bs).bytes = bs.take readSize ++ b.bytes.drop bs.length := rfl
  rw [hput, List.take_of_length_le h, List.take_left]

end Buffer

namespace Handle

/-- One read: how many bytes it brings, the buffer with them in front, and the device behind it. -/
def read (d : Handle) (b : Buffer) : Except Refusal Nat × Buffer × Handle :=
  match d.unread, d.idle with
  | [], some refusal => (.error refusal, b, d)
  | bs, _ =>
    let got := bs.take readSize
    (.ok got.length, b.put got, { d with unread := bs.drop readSize })

/-- A read that brings a whole record leaves less to read. -/
theorem unread_read_lt {d d' : Handle} {b b' : Buffer} {n : Nat}
    (h : d.read b = (.ok n, b', d')) (hn : recordSize ≤ n) :
    d'.unread.length < d.unread.length := by
  unfold read at h
  split at h
  · cases h
  · cases h
    simp only [List.length_take, List.length_drop, recordSize, readSize] at *
    omega

/-- Read until a read brings less than a record or is refused. Each read gives the key edges among
the whole records in the part of the buffer that it has written. -/
def drain (d : Handle) (b : Buffer) : List Edge × Buffer × Handle :=
  match h : d.read b with
  | (.ok n, b', d') =>
    if hn : recordSize ≤ n then
      have : d'.unread.length < d.unread.length := unread_read_lt h hn
      let (es, b'', d'') := d'.drain b'
      (Held.edgesOfRead (b'.bytes.take n) ++ es, b'', d'')
    else ([], b', d')
  | (.error .wouldBlock, b', d') => ([], b', d')
  | (.error .failed, b', d') => ([], b', d')
termination_by d.unread.length

end Handle

/-- What is sent on in one poll, and the count that the poll returns. -/
structure Report where
  sent : Nat
  motions : List Motion
deriving DecidableEq, Repr

/-- The open devices, what is held on them, and the buffer. -/
structure Listener where
  devices : List Handle
  held : Held := {}
  buffer : Buffer := .zeros

namespace Listener

/-- A new listener to devices with nothing in them, which answer so when they are read empty. -/
def opened (idle : List (Option Refusal)) : Listener :=
  { devices := idle.map fun refusal => { idle := refusal } }

/-- Drain one device after the other. -/
def drainAll (b : Buffer) : List Handle → List Edge × Buffer × List Handle
  | [] => ([], b, [])
  | d :: ds =>
    let (es, b, d) := d.drain b
    let (es', b, ds) := drainAll b ds
    (es ++ es', b, d :: ds)

/-- Translate edges and send each motion on, counting from `sent`. -/
def deliver (sent : Nat) (h : Held) : List Edge → Report × Held
  | [] => (⟨sent, []⟩, h)
  | e :: es =>
    match h.translate e with
    | (none, h) => deliver sent h es
    | (some m, h) =>
      let (r, h) := deliver (sent + 1) h es
      (⟨r.sent, m :: r.motions⟩, h)

/-- All devices are read before anything is translated. -/
def poll (l : Listener) : Report × Listener :=
  let (es, buffer, devices) := drainAll l.buffer l.devices
  let (r, held) := deliver 0 l.held es
  (r, { devices, held, buffer })

/-- New bytes arrive: the device number `i` gets `bytes i`. -/
def arrive (l : Listener) (bytes : Nat → List UInt8) : Listener :=
  { l with devices := l.devices.mapIdx fun i d => { d with unread := d.unread ++ bytes i } }

/-- One poll after the other, each after new bytes have arrived. -/
def pollAll (l : Listener) : List (Nat → List UInt8) → List Report × Listener
  | [] => ([], l)
  | bytes :: arrivals =>
    let (r, l) := (l.arrive bytes).poll
    let (rs, l) := l.pollAll arrivals
    (r :: rs, l)

end Listener

end ChordDrill.Device
