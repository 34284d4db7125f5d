import ChordDrill.Text.ColumnTable
import ChordDrill.Text.Symbol

/-!
# ChordDrill.Text.Column

The terminal columns that characters and symbols take. A character takes two columns if it is wide,
none if it is a mark or invisible, else one. In a symbol the characters behind a character can
change that: a selector asks for a form in color, a joiner or a skin tone makes one picture of
several characters, a sign sets a Khmer letter below the line.

* `charWidth`    — the columns of a single character.
* `Ahead`        — what stands behind a character in its symbol.
* `Symbol.width` — the columns of a symbol.
-/

namespace ChordDrill.Text

/-! ## Characters -/

/-- Whether the character sets the skin tone of the pictograph before it. -/
def isTone (c : Char) : Bool := 0x1F3FB ≤ c.toNat && c.toNat ≤ 0x1F3FF

/-- Whether a character takes no column. -/
def isHidden (c : Char) : Bool :=
  c = '\u200D' || inRanges invisibleRanges c ||
    (inRanges extendRanges c && !isTone c && !inRanges recentMarkRanges c)

/-- The columns of a single character. The joiner of Tifinagh consonants has one although it is a
mark. Of two Khmer signs for which Unicode asks to write others, one is as wide as the three that
spell it and one is wide. -/
def charWidth (c : Char) : Nat :=
  if c.toNat ≤ 0xA0 || c.toNat = 0x2D7F then 1
  else if isHidden c then 0
  else if c.toNat = 0x17D8 then 3
  else if c.toNat = 0x17A4 || inRanges wideRanges c then 2
  else 1

/-! ## Symbols -/

/-- What stands behind a character in its symbol, as far as the columns depend on it. -/
inductive Ahead where
  /-- Nothing that matters. -/
  | plain
  /-- The selector of the form as text. -/
  | textForm
  /-- The selector of the form in color. -/
  | colorForm
  /-- A skin tone. -/
  | tone
  /-- A pictograph. -/
  | pictograph
  /-- A joiner and a pictograph. -/
  | joined
  /-- A selector of the form in color, a joiner and a pictograph. -/
  | joinedColorForm
  /-- The frame of a key cap, a joiner and a pictograph. -/
  | joinedKeycap
  /-- So many tag letters, the end of the tags, a joiner and a pictograph. -/
  | tagLetters (n : Nat)
  /-- So many tag digits before tag letters. -/
  | tagDigits (n : Nat)
  /-- A Khmer letter that has a form below the line. -/
  | coengLetter
  /-- A vowel sign E of Kirat Rai. -/
  | vowelE
  /-- A vowel sign AI of Kirat Rai. -/
  | vowelAI
deriving DecidableEq, Repr

/-- The columns of a character behind which nothing matters, and what stands behind the character
before it. -/
def lastColumns (c : Char) : Int × Ahead :=
  if c = '\uFE0E' then (0, .textForm)
  else if c = '\uFE0F' then (0, .colorForm)
  else if isTone c then (2, .tone)
  else if inRanges colorfulRanges c then (2, .pictograph)
  else if inRanges coengRanges c then (1, .coengLetter)
  else if c.toNat = 0x16D67 then (1, .vowelE)
  else if c.toNat = 0x16D68 then (1, .vowelAI)
  else (charWidth c, .plain)

/-- Pictographs in a square keep two columns in their form as text. -/
def isSquare (c : Char) : Bool := 0x1F200 ≤ c.toNat && c.toNat ≤ 0x1F2FF

def isTagLetter (c : Char) : Bool := 0xE0061 ≤ c.toNat && c.toNat ≤ 0xE007A

def isTagDigit (c : Char) : Bool := 0xE0030 ≤ c.toNat && c.toNat ≤ 0xE0039

/-- The black flag, which tags turn into the flag of a region. -/
def isBlackFlag (c : Char) : Bool := c.toNat = 0x1F3F4

/-- Whether the sign that sets a Khmer letter below the line works across the character. -/
def isTransparent (c : Char) : Bool :=
  inRanges [⟨0x34F, 0x34F⟩, ⟨0x17B4, 0x17B5⟩, ⟨0x180B, 0x180D⟩, ⟨0x180F, 0x180F⟩,
    ⟨0x200D, 0x200D⟩, ⟨0xFE00, 0xFE0F⟩, ⟨0xE0100, 0xE01EF⟩] c

/-- The columns that a character adds to what stands behind it, and what then stands behind the
character before it. -/
def Ahead.columns (a : Ahead) (c : Char) : Int × Ahead :=
  match a with
  | .plain => lastColumns c
  | .textForm =>
    if inRanges styledRanges c && inRanges colorfulRanges c && !isSquare c then (1, .plain)
    else lastColumns c
  | .colorForm => if inRanges styledRanges c then (2, .pictograph) else lastColumns c
  | .tone =>
    if inRanges toneBaseRanges c then (0, .pictograph)
    else if c = '\u200D' then (0, .joined)
    else lastColumns c
  | .pictograph => if c = '\u200D' then (0, .joined) else lastColumns c
  | .joined =>
    if c = '\uFE0F' then (0, .joinedColorForm)
    else if c = '\u20E3' then (0, .joinedKeycap)
    else if isTone c then (0, .tone)
    else if c.toNat = 0xE007F then (0, .tagLetters 0)
    else if inRanges colorfulRanges c then (0, .pictograph)
    else lastColumns c
  | .joinedColorForm => if inRanges styledRanges c then (0, .pictograph) else lastColumns c
  | .joinedKeycap => if c = '\uFE0F' then (0, .joinedColorForm) else lastColumns c
  | .tagLetters n =>
    if isTagLetter c && n < 6 then (0, .tagLetters (n + 1))
    else if isTagDigit c && n ≤ 4 then (0, .tagDigits 1)
    else if isBlackFlag c && 3 ≤ n then (0, .pictograph)
    else lastColumns c
  | .tagDigits n =>
    if isTagDigit c && n < 3 then (0, .tagDigits (n + 1))
    else if isBlackFlag c && n = 3 then (0, .pictograph)
    else lastColumns c
  | .coengLetter =>
    if c.toNat = 0x17D2 then (-1, .plain)
    else if isTransparent c then (0, .coengLetter)
    else lastColumns c
  | .vowelE =>
    match c.toNat with
    | 0x16D63 | 0x16D69 => (0, .plain)
    | 0x16D67 => (0, .vowelAI)
    | 0x16D68 => (1, .vowelE)
    | _ => lastColumns c
  | .vowelAI => if c.toNat = 0x16D63 then (0, .plain) else lastColumns c

/-- The columns of characters in a symbol, and what stands behind the character before them. -/
def columnsOf : Symbol → Int × Ahead
  | [] => (0, .plain)
  | c :: cs =>
    let (more, ahead) := columnsOf cs
    let (here, ahead) := ahead.columns c
    (here + more, ahead)

/-- The columns that a symbol takes; a line end takes one. -/
def Symbol.width (s : Symbol) : Nat := if s = lineEnd then 1 else (columnsOf s).1.toNat

end ChordDrill.Text
