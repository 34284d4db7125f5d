import ChordDrill.Combo.Tokens

/-!
# ChordDrill.Combo.Printer

Combos as text: `compact` for files, `pretty` for the screen.
-/

namespace ChordDrill.Combo

/-- Stands between the tokens of the form for the screen. -/
def separator : Char := '·'

/-- The tokens one after the other. -/
def compactLetters (ms : List Motion) : List Char := (tokenize ms).flatMap Token.letters

/-- The tokens with a separator between each two. -/
def prettyLetters (ms : List Motion) : List Char :=
  List.intercalate [separator] ((tokenize ms).map Token.letters)

def compact (ms : List Motion) : String := String.ofList (compactLetters ms)

def pretty (ms : List Motion) : String := String.ofList (prettyLetters ms)

end ChordDrill.Combo
