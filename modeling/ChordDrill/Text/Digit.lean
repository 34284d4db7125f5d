/-!
# ChordDrill.Text.Digit

Digits and the numbers they write.

* `digit?`   — the value of a digit in a base up to sixteen.
* `ofDigits` — the number with the given digits, most significant first.
-/

namespace ChordDrill.Text

/-- The value of a hexadecimal digit of either case. -/
def hexDigit? (c : Char) : Option Nat :=
  if '0' ≤ c ∧ c ≤ '9' then some (c.toNat - '0'.toNat)
  else if 'a' ≤ c ∧ c ≤ 'f' then some (c.toNat - 'a'.toNat + 10)
  else if 'A' ≤ c ∧ c ≤ 'F' then some (c.toNat - 'A'.toNat + 10)
  else none

/-- The value of a digit in a base up to sixteen. -/
def digit? (base : Nat) (c : Char) : Option Nat := (hexDigit? c).filter (· < base)

/-- The number with the given digits, most significant first. -/
def ofDigits (base : Nat) (ds : List Nat) : Nat := ds.foldl (fun n d => base * n + d) 0

/-- The number written by a non-empty run of digits. -/
def number? (base : Nat) (cs : List Char) : Option Nat :=
  match cs.mapM (digit? base) with
  | none | some [] => none
  | some ds => some (ofDigits base ds)

/-- The number written by exactly `n` digits at the front, and what follows them. -/
def fixedNumber? (base n : Nat) (cs : List Char) : Option (Nat × List Char) :=
  if n ≤ cs.length then (number? base (cs.take n)).map fun v => (v, cs.drop n) else none

/-- The character with this code point, if there is one. -/
def char? (n : Nat) : Option Char :=
  if h : n.isValidChar then some (Char.ofNatAux n h) else none

end ChordDrill.Text
