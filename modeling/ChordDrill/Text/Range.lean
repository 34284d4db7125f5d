/-!
# ChordDrill.Text.Range

Sets of characters as closed ranges of code points, in ascending order.
-/

namespace ChordDrill.Text

/-- The code points from `first` to `last`, both included. -/
structure Range where
  first : Nat
  last : Nat
deriving DecidableEq, Repr

/-- Whether one of the ranges, which ascend, holds the character. -/
def inRanges (rs : List Range) (c : Char) : Bool :=
  match rs with
  | [] => false
  | r :: rs => r.first ≤ c.toNat && (c.toNat ≤ r.last || inRanges rs c)

end ChordDrill.Text
