/-!
# ChordDrill.Device.Record

Input records as the kernel writes them: sixteen bytes of time, then a kind, a code and a value,
little endian.

* `Record.ofBytes?`  — the record in 24 bytes.
* `Record.decodeAll` — the whole records of a run of bytes; an incomplete one at the end is dropped.
* `reads`            — how a device hands over its bytes.
-/

namespace ChordDrill.Device

/-- An input record, less its time. -/
structure Record where
  kind : UInt16
  code : UInt16
  value : Int32
deriving DecidableEq, Repr

/-- The number of bytes of a record. -/
def recordSize : Nat := 24

/-- The most bytes of one read: 64 records. -/
def readSize : Nat := 64 * recordSize

/-- The kind of a record about a key. -/
def keyKind : UInt16 := 1

/-- Bytes of a number, least significant first. -/
def littleEndian (bs : List UInt8) : Nat := bs.foldr (fun b n => b.toNat + 256 * n) 0

namespace Record

/-- The record at the front of a run of bytes. -/
def ofBytes? (bs : List UInt8) : Option Record :=
  match bs.drop 16 with
  | t₀ :: t₁ :: c₀ :: c₁ :: v₀ :: v₁ :: v₂ :: v₃ :: _ =>
    some {
      kind := .ofNat (littleEndian [t₀, t₁])
      code := .ofNat (littleEndian [c₀, c₁])
      value := .ofNat (littleEndian [v₀, v₁, v₂, v₃]) }
  | _ => none

/-- The records at the offsets 0, 24, 48, … as far as they are complete. -/
def decodeAll (bs : List UInt8) : List Record :=
  if bs.length < recordSize then []
  else (ofBytes? bs).toList ++ decodeAll (bs.drop recordSize)
termination_by bs.length
decreasing_by
  simp only [List.length_drop, recordSize] at *
  omega

end Record

/-- The reads that empty a device: each takes up to `readSize` bytes, and the first that brings
less than a record ends them and is dropped. -/
def reads (bs : List UInt8) : List (List UInt8) :=
  if bs.length < recordSize then []
  else bs.take readSize :: reads (bs.drop readSize)
termination_by bs.length
decreasing_by
  simp only [List.length_drop, readSize, recordSize] at *
  omega

end ChordDrill.Device
