/-!
# ChordDrill.Random.Draw

Numbers drawn from a tape of random words. A word that would favour some numbers is passed over,
so a draw may use several words, and fails when the tape ends.

* `longWords` — the words of a tape in pairs.
* `scaled?`   — the number below a bound that a word stands for.
* `below?`    — a number below a bound.
* `from?`     — a number between two bounds.
-/

namespace ChordDrill.Random

/-- The words still to be used. -/
abbrev Tape := List UInt32

/-- The first number too large for a word. -/
def wordLimit : Nat := 0x100000000

/-- The first number too large for a pair of words. -/
def longLimit : Nat := wordLimit * wordLimit

/-- A pair of words as one number, from its low half and its high half. -/
def long (low high : UInt32) : Nat := low.toNat + wordLimit * high.toNat

/-- Pairs of words as numbers, each with the low half first. -/
def longWords : Tape → List Nat
  | low :: high :: tape => long low high :: longWords tape
  | _ => []

/-- The number below `span` that a word below `limit` stands for: their product counted in units of
`limit`. What is left of the product must be at most `zone`. -/
def scaled? (limit zone span word : Nat) : Option Nat :=
  let product := word * span
  if product % limit ≤ zone then some (product / limit) else none

/-- The zone for one number: one less than `span` shifted up to fill 32 bits. -/
def zone (span : Nat) : Nat := (span <<< (31 - Nat.log2 span)) - 1

/-- The zone for many numbers: one less than the largest multiple of `span` up to `limit`. -/
def fullZone (limit span : Nat) : Nat := limit - 1 - (limit - span) % span

/-- A number below `span`, and the words after those used for it. -/
def below? (span : Nat) : Tape → Option (Nat × Tape)
  | [] => none
  | word :: tape =>
    match scaled? wordLimit (zone span) span word.toNat with
    | some n => some (n, tape)
    | none => below? span tape

/-- A number from `low` to `high`, both included, and the words after those used for it. -/
def from? (low high : Nat) (tape : Tape) : Option (Nat × Tape) :=
  match below? (high - low + 1) tape with
  | some (n, tape) => some (low + n, tape)
  | none => none

theorem long_lt (low high : UInt32) : long low high < longLimit := by
  calc low.toNat + wordLimit * high.toNat
    _ < wordLimit + wordLimit * high.toNat := Nat.add_lt_add_right low.toNat_lt _
    _ = wordLimit * (high.toNat + 1) := by rw [Nat.mul_succ, Nat.add_comm]
    _ ≤ longLimit := Nat.mul_le_mul_left wordLimit high.toNat_lt

theorem scaled?_lt {limit zone span word n : Nat} (hs : 0 < span) (hw : word < limit)
    (h : scaled? limit zone span word = some n) : n < span := by
  simp only [scaled?] at h
  split at h
  · cases h
    exact Nat.div_lt_of_lt_mul (Nat.mul_lt_mul_of_pos_right hw hs)
  · cases h

theorem below?_lt {span n : Nat} {tape tape' : Tape} (h : below? span tape = some (n, tape')) :
    0 < span → n < span := by
  intro hs
  induction tape with
  | nil => simp [below?] at h
  | cons word tape ih =>
    simp only [below?] at h
    split at h
    · rename_i m hm
      cases h
      exact scaled?_lt hs word.toNat_lt hm
    · exact ih h

theorem from?_mem {low high n : Nat} {tape tape' : Tape} (hle : low ≤ high)
    (h : from? low high tape = some (n, tape')) : low ≤ n ∧ n ≤ high := by
  unfold from? at h
  split at h
  · rename_i m t hb
    have := below?_lt hb (by omega)
    cases h
    omega
  · cases h

end ChordDrill.Random
