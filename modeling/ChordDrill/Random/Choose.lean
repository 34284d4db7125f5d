import ChordDrill.Random.Draw

/-!
# ChordDrill.Random.Choose

Different positions of a list in random order. Few positions of a long list are chosen one by one,
many positions by shuffling the beginning of the list of all positions, and many positions of a very
long list, or any of one too long for single words, by drawing again what was drawn before.

* `shuffled?`  — by shuffling.
* `picked?`    — one by one.
* `redrawn?`   — by drawing again.
* `positions?` — by the way that suits the numbers.
-/

namespace ChordDrill.Random

/-- Swap each of the `count` places from `i` on with a place drawn from it to the end. -/
def shuffleFrom? (places : Array Nat) (i : Nat) : (count : Nat) → Tape → Option (Array Nat × Tape)
  | 0, tape => some (places, tape)
  | count + 1, tape =>
    match from? i (places.size - 1) tape with
    | some (j, tape) => shuffleFrom? (places.swapIfInBounds i j) (i + 1) count tape
    | none => none

/-- The first `amount` of `n` positions after shuffling. -/
def shuffled? (n amount : Nat) (tape : Tape) : Option (List Nat × Tape) :=
  match shuffleFrom? (Array.range n) 0 amount tape with
  | some (places, tape) => some (places.toList.take amount, tape)
  | none => none

/-- Put a drawn position after those chosen. If it is chosen already, `j` takes its place in the
order, in front of it. -/
def pickInOrder (chosen : List Nat) (t j : Nat) : List Nat :=
  match chosen.idxOf? t with
  | some i => chosen.insertIdx i j
  | none => chosen ++ [t]

/-- Put a drawn position after those chosen, or `j` if it is chosen already. -/
def pickAny (chosen : List Nat) (t j : Nat) : List Nat :=
  if t ∈ chosen then chosen ++ [j] else chosen ++ [t]

/-- For each of the `count` positions from `j` on, draw one up to it and pick it. -/
def pickFrom? (pick : List Nat → Nat → Nat → List Nat) (chosen : List Nat) (j : Nat) :
    (count : Nat) → Tape → Option (List Nat × Tape)
  | 0, tape => some (chosen, tape)
  | count + 1, tape =>
    match from? 0 j tape with
    | some (t, tape) => pickFrom? pick (pick chosen t j) (j + 1) count tape
    | none => none

/-- Swap each place from `i` down to the second one with a place drawn up to it. -/
def shuffleDown? (places : Array Nat) : (i : Nat) → Tape → Option (Array Nat × Tape)
  | 0, tape => some (places, tape)
  | i + 1, tape =>
    match from? 0 (i + 1) tape with
    | some (j, tape) => shuffleDown? (places.swapIfInBounds (i + 1) j) i tape
    | none => none

/-- Some positions in random order. -/
def mixed? (chosen : List Nat) (tape : Tape) : Option (List Nat × Tape) :=
  match shuffleDown? chosen.toArray (chosen.length - 1) tape with
  | some (places, tape) => some (places.toList, tape)
  | none => none

/-- The most positions that are put in random order while they are picked. -/
def orderedLimit : Nat := 49

/-- `amount` of `n` positions, picked one by one. -/
def picked? (n amount : Nat) (tape : Tape) : Option (List Nat × Tape) :=
  if amount ≤ orderedLimit then pickFrom? pickInOrder [] (n - amount) amount tape
  else
    match pickFrom? pickAny [] (n - amount) amount tape with
    | some (chosen, tape) => mixed? chosen tape
    | none => none

/-- Draw `count` more positions below `n` with words below `limit`; those `chosen` are given last
one first. What is chosen already is drawn again. -/
def redrawFrom? (limit n : Nat) :
    (count : Nat) → (chosen : List Nat) → (words : List Nat) → Option (List Nat)
  | 0, chosen, _ => some chosen.reverse
  | _ + 1, _, [] => none
  | count + 1, chosen, word :: words =>
    match scaled? limit (fullZone limit n) n word with
    | none => redrawFrom? limit n (count + 1) chosen words
    | some p =>
      if p ∈ chosen then redrawFrom? limit n (count + 1) chosen words
      else redrawFrom? limit n count (p :: chosen) words

/-- `amount` of `n` positions, each drawn until it is a new one. A word is drawn for each position,
or two words if the list is too long for single ones. -/
def redrawn? (n amount : Nat) (tape : Tape) : Option (List Nat) :=
  if n < wordLimit then redrawFrom? wordLimit n amount [] (tape.map UInt32.toNat)
  else redrawFrom? longLimit n amount [] (longWords tape)

/-! ## The choice of a way -/

/-- The nearest number of 24 binary digits; of two, the even one. -/
def single (n : Nat) : Nat :=
  let shift := Nat.log2 n - 23
  let low := n % (1 <<< shift)
  let down := n - low
  let half := (1 <<< shift) / 2
  if half < low ∨ (low = half ∧ 0 < half ∧ n >>> shift % 2 = 1) then down + (1 <<< shift)
  else down

/-- The length from which on a list counts as huge. -/
def hugeLength : Nat := 500000

/-- Whether a list of `n` positions is short for `amount` of them: shorter than 270 times the
amount, or if it is huge, than 110 / 3 times. For a huge list all numbers have 24 binary digits: the
length, the amount, their factor, which is 9611947 after a shift by 18 digits, and the product. -/
def isShort (n amount : Nat) : Bool :=
  if n < hugeLength then n < 270 * amount
  else single (n <<< 18) < single (9611947 * single amount)

/-- The ways to choose. -/
inductive Way where
  /-- Shuffle the beginning of the list. -/
  | shuffle
  /-- One by one. -/
  | pick
  /-- Draw again what was drawn before. -/
  | redraw
deriving DecidableEq, Repr

/-- The way that suits `amount` of `n` positions. A list too long for single words is drawn from
again and again. Of others, up to 11 positions are picked; up to 162 are picked too, unless the list
is shorter than (10 + 1.6 · amount) · amount. -/
def Way.suiting (n amount : Nat) : Way :=
  if wordLimit ≤ n then .redraw
  else if amount ≤ 11 then .pick
  else if amount ≤ 162 then if 5 * n < (50 + 8 * amount) * amount then .shuffle else .pick
  else if isShort n amount then .shuffle
  else .redraw

/-- `amount` of `n` positions, chosen in some way. -/
def Way.choose? (w : Way) (n amount : Nat) (tape : Tape) : Option (List Nat) :=
  match w with
  | .shuffle => (shuffled? n amount tape).map Prod.fst
  | .pick => (picked? n amount tape).map Prod.fst
  | .redraw => redrawn? n amount tape

/-- Up to `size` of `n` positions, all different, in random order. -/
def positions? (n size : Nat) (tape : Tape) : Option (List Nat) :=
  let amount := min size n
  (Way.suiting n amount).choose? n amount tape

end ChordDrill.Random
