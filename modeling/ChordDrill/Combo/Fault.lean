import ChordDrill.Key

/-!
# ChordDrill.Combo.Fault

Why a text is not a combo.
-/

namespace ChordDrill.Combo

/-- The ways in which a text fails to be a combo. -/
inductive Fault where
  /-- The text after a mark names no key. -/
  | unknownKey (raw : List Char)
  /-- A run of marks is none of `↓`, `↑` and `↓↑`. -/
  | invalidMotion (marks : List Char)
  /-- A key is let go that is not held. -/
  | releaseWithoutPress (k : Key)
  /-- A key is pressed that is held already. -/
  | doublePress (k : Key)
deriving DecidableEq, Repr

/-- The text shown to the user. -/
def Fault.message : Fault → String
  | .unknownKey raw => "Unknown keyboard key '" ++ String.ofList raw ++ "'"
  | .invalidMotion marks => "Invalid motion '" ++ String.ofList marks ++ "'"
  | .releaseWithoutPress k => "'" ++ k.name ++ "' was never indicated as pressed"
  | .doublePress k => "'" ++ k.name ++ "' is already pressed"

end ChordDrill.Combo
