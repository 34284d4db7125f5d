/-!
# ChordDrill.Random.Stream

A reproducible stream of random words: ChaCha with twelve rounds under a key made from a seed.

* `keyOf` — the key of a seed.
* `block` — sixteen words of the stream.
* `tape`  — the beginning of the stream.
-/

namespace ChordDrill.Random

/-! ## The key of a seed -/

/-- Multiplier and increment of the generator of key words. -/
def multiplier : UInt64 := 6364136223846793005
def increment : UInt64 := 11634580027462260723

def rotateRight (x : UInt32) (n : UInt32) : UInt32 :=
  if n % 32 = 0 then x else (x >>> (n % 32)) ||| (x <<< (32 - n % 32))

def rotateLeft (x : UInt32) (n : UInt32) : UInt32 := (x <<< n) ||| (x >>> (32 - n))

/-- The word that a state gives. -/
def keyWord (state : UInt64) : UInt32 :=
  rotateRight ((((state >>> 18) ^^^ state) >>> 27).toUInt32) (state >>> 59).toUInt32

/-- The `n` words that follow a state. -/
def keyWords (state : UInt64) : Nat → List UInt32
  | 0 => []
  | n + 1 =>
    let next := state * multiplier + increment
    keyWord next :: keyWords next n

/-- The key of a seed: eight words. -/
def keyOf (seed : UInt64) : List UInt32 := keyWords seed 8

/-! ## The stream -/

/-- Sixteen words in a square. -/
abbrev Square := Vector UInt32 16

/-- One quarter of a round, on four places of the square. -/
def quarter (s : Square) (a b c d : Fin 16) : Square :=
  let s := s.set a (s[a] + s[b])
  let s := s.set d (rotateLeft (s[d] ^^^ s[a]) 16)
  let s := s.set c (s[c] + s[d])
  let s := s.set b (rotateLeft (s[b] ^^^ s[c]) 12)
  let s := s.set a (s[a] + s[b])
  let s := s.set d (rotateLeft (s[d] ^^^ s[a]) 8)
  let s := s.set c (s[c] + s[d])
  s.set b (rotateLeft (s[b] ^^^ s[c]) 7)

/-- Two rounds: the columns, then the diagonals. -/
def doubleRound (s : Square) : Square :=
  let s := quarter s 0 4 8 12
  let s := quarter s 1 5 9 13
  let s := quarter s 2 6 10 14
  let s := quarter s 3 7 11 15
  let s := quarter s 0 5 10 15
  let s := quarter s 1 6 11 12
  let s := quarter s 2 7 8 13
  quarter s 3 4 9 14

/-- The square before the rounds: four fixed words, the key, the number of the block, and the
number of the stream, which is zero. -/
def start (key : List UInt32) (n : UInt64) : Square :=
  let k (i : Nat) : UInt32 := key.getD i 0
  #v[0x61707865, 0x3320646E, 0x79622D32, 0x6B206574,
     k 0, k 1, k 2, k 3, k 4, k 5, k 6, k 7,
     n.toUInt32, (n >>> 32).toUInt32, 0, 0]

def rounds (s : Square) : Nat → Square
  | 0 => s
  | n + 1 => rounds (doubleRound s) n

/-- The words of a block. -/
def block (key : List UInt32) (n : UInt64) : List UInt32 :=
  let s := start key n
  (s.zipWith (· + ·) (rounds s 6)).toList

/-- The words of the first `n` blocks. -/
def tape (seed : UInt64) (n : Nat) : List UInt32 :=
  (List.range n).flatMap fun i => block (keyOf seed) (UInt64.ofNat i)

end ChordDrill.Random
