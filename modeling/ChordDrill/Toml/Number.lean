import ChordDrill.Text.Digit

/-!
# ChordDrill.Toml.Number

The words that write numbers.

* `integer?` — the integer that a word writes, if it fits 64 bits with sign.
* `isFloat`  — whether a word writes a float. One that would round to positive infinity does not.
-/

namespace ChordDrill.Toml

/-- The digits of a run in which single underscores may stand between digits. -/
def digitRun? (base : Nat) : List Char → Option (List Nat)
  | [] => none
  | [c] => (Text.digit? base c).map fun d => [d]
  | c :: '_' :: cs =>
    match Text.digit? base c with
    | some d => (digitRun? base cs).map (d :: ·)
    | none => none
  | c :: cs =>
    match Text.digit? base c with
    | some d => (digitRun? base cs).map (d :: ·)
    | none => none

/-- The digits of a decimal number, which has no zero in front. -/
def decimalRun? (cs : List Char) : Option (List Nat) :=
  match digitRun? 10 cs with
  | some (0 :: _ :: _) => none
  | ds => ds

/-- Whether a sign in front says minus, and what follows it. -/
def splitSign : List Char → Bool × List Char
  | '-' :: cs => (true, cs)
  | '+' :: cs => (false, cs)
  | cs => (false, cs)

/-- The first number too large for 64 bits with sign. -/
def integerLimit : Nat := 0x8000000000000000

/-- The integer that a word writes. -/
def integer? (word : List Char) : Option Int :=
  let value : Option Int :=
    match word with
    | '0' :: 'x' :: cs => (digitRun? 16 cs).map fun ds => (Text.ofDigits 16 ds : Int)
    | '0' :: 'o' :: cs => (digitRun? 8 cs).map fun ds => (Text.ofDigits 8 ds : Int)
    | '0' :: 'b' :: cs => (digitRun? 2 cs).map fun ds => (Text.ofDigits 2 ds : Int)
    | _ =>
      let (minus, cs) := splitSign word
      (decimalRun? cs).map fun ds =>
        if minus then -(Text.ofDigits 10 ds : Int) else (Text.ofDigits 10 ds : Int)
  value.filter fun n => -(integerLimit : Int) ≤ n && n < integerLimit

/-- Half way from the largest finite float to the next power of two; what is not below it rounds
to infinity. -/
def overflowBound : Nat := (1 <<< 1024) - (1 <<< 970)

/-- Whether `digits` times ten to the power `exponent` rounds to infinity. -/
def overflows (digits : List Nat) (exponent : Int) : Bool :=
  let significant := digits.dropWhile (· = 0)
  let magnitude := (significant.length : Int) + exponent
  let m := Text.ofDigits 10 significant
  if significant = [] ∨ magnitude < 309 then false
  else if 309 < magnitude then true
  else if 0 ≤ exponent then overflowBound ≤ m * Nat.pow 10 exponent.toNat
  else overflowBound * Nat.pow 10 (-exponent).toNat ≤ m

def isExponentMark (c : Char) : Bool := c == 'e' || c == 'E'

/-- The exponent written behind its mark. -/
def exponent? (cs : List Char) : Option Int :=
  let (minus, cs) := splitSign cs
  (digitRun? 10 cs).map fun ds =>
    if minus then -(Text.ofDigits 10 ds : Int) else (Text.ofDigits 10 ds : Int)

/-- The digits and the power of ten that an unsigned float writes: it has a fraction, an exponent
or both. -/
def scientific? (cs : List Char) : Option (List Nat × Int) :=
  let mantissa := cs.takeWhile fun c => !isExponentMark c
  let tail := cs.dropWhile fun c => !isExponentMark c
  let whole := mantissa.takeWhile (· != '.')
  let fraction : Option (List Nat) :=
    match mantissa.dropWhile (· != '.') with
    | [] => if tail = [] then none else some []
    | _ :: digits => digitRun? 10 digits
  let power : Option Int :=
    match tail with
    | [] => some 0
    | _ :: written => exponent? written
  match decimalRun? whole, fraction, power with
  | some ds, some fs, some e => some (ds ++ fs, e - fs.length)
  | _, _, _ => none

/-- Whether a word writes a float. -/
def isFloat (word : List Char) : Bool :=
  let (minus, cs) := splitSign word
  if cs = "inf".toList ∨ cs = "nan".toList then true
  else
    match scientific? cs with
    | some (digits, exponent) => minus || !overflows digits exponent
    | none => false

end ChordDrill.Toml
