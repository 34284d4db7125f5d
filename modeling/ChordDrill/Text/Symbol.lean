import ChordDrill.Text.SymbolTable

/-!
# ChordDrill.Text.Symbol

Symbols: what a reader takes for one character. A mark belongs to the symbol of the character before
it; so do the letters of a Hangul syllable, the consonants of a conjunct, the second letter of a
flag, and a pictograph behind a joiner.

* `Joint`           — how a character joins its neighbours.
* `Seen.joins`      — whether the next character belongs to the symbol that was seen so far.
* `symbols`         — the symbols of a text.
* `flatten_symbols` — nothing of the text is lost or added.
-/

namespace ChordDrill.Text

/-- A character with what belongs to it. -/
abbrev Symbol := List Char

/-- A carriage return with its line feed. -/
def lineEnd : Symbol := ['\r', '\n']

def isControl (c : Char) : Bool := c.toNat < 0x20 || (0x7F ≤ c.toNat && c.toNat < 0xA0)

def Symbol.hasControl (s : Symbol) : Bool := s.any isControl

/-! ## Characters -/

/-- How a character joins its neighbours. -/
inductive Joint where
  | carriageReturn
  | lineFeed
  /-- Control characters and others that stand alone. -/
  | control
  | extend
  /-- Extends, and links two consonants to a conjunct. -/
  | linker
  /-- Extends, and keeps consonants apart. -/
  | nonJoiner
  /-- Joins two pictographs. -/
  | joiner
  | spacing
  | prepend
  /-- A Hangul letter that begins a syllable. -/
  | leading
  /-- A letter in the middle of a syllable. -/
  | vowel
  /-- A Hangul letter that ends a syllable. -/
  | trailing
  /-- A Hangul syllable that ends in a vowel. -/
  | openSyllable
  /-- A Hangul syllable that ends in a consonant. -/
  | closedSyllable
  | flagLetter
  | pictograph
  /-- A consonant that forms conjuncts. -/
  | consonant
  | other
deriving DecidableEq, Repr

namespace Joint

/-- How a character joins its neighbours. Of the Hangul syllables, every 28th one ends in a
vowel. -/
def ofChar (c : Char) : Joint :=
  if c = '\r' then .carriageReturn
  else if c = '\n' then .lineFeed
  else if isControl c || inRanges formatRanges c then .control
  else if c = '\u200C' then .nonJoiner
  else if c = '\u200D' then .joiner
  else if inRanges linkerRanges c then .linker
  else if inRanges extendRanges c then .extend
  else if inRanges spacingRanges c then .spacing
  else if inRanges prependRanges c then .prepend
  else if inRanges consonantRanges c then .consonant
  else if inRanges leadingJamoRanges c then .leading
  else if inRanges vowelJamoRanges c then .vowel
  else if inRanges trailingJamoRanges c then .trailing
  else if 0xAC00 ≤ c.toNat ∧ c.toNat ≤ 0xD7A3 then
    if (c.toNat - 0xAC00) % 28 = 0 then .openSyllable else .closedSyllable
  else if 0x1F1E6 ≤ c.toNat ∧ c.toNat ≤ 0x1F1FF then .flagLetter
  else if inRanges pictographRanges c then .pictograph
  else .other

/-- Nothing joins such a character, except a line feed a carriage return. -/
def isAlone (j : Joint) : Bool := j == .carriageReturn || j == .lineFeed || j == .control

/-- A mark that pictographs may carry before a joiner. -/
def isExtend (j : Joint) : Bool := j == .extend || j == .linker || j == .nonJoiner

/-- A mark that may stand between a consonant and a linker, on either side of the linker. -/
def isFiller (j : Joint) : Bool := j == .extend || j == .joiner

/-- Joins whatever stands before it. -/
def isMark (j : Joint) : Bool := j.isExtend || j == .joiner || j == .spacing

end Joint

/-! ## Texts -/

/-- What was seen of a symbol, as far as later characters depend on it. -/
structure Seen where
  last : Joint
  /-- An odd number of flag letters stands last. -/
  oddFlag : Bool
  /-- A pictograph with its marks stands last. -/
  pictograph : Bool
  /-- A joiner behind such a pictograph stands last. -/
  joined : Bool
  /-- A consonant with its fillers and linkers stands last. -/
  consonant : Bool
  /-- There is a linker among them. -/
  linked : Bool
deriving DecidableEq, Repr

namespace Seen

/-- A symbol of which one character was seen. -/
def first (j : Joint) : Seen :=
  { last := j
    oddFlag := j == .flagLetter
    pictograph := j == .pictograph
    joined := false
    consonant := j == .consonant
    linked := false }

/-- One more character of the symbol. -/
def next (s : Seen) (j : Joint) : Seen :=
  { last := j
    oddFlag := j == .flagLetter && !s.oddFlag
    pictograph := j == .pictograph || (s.pictograph && j.isExtend)
    joined := s.pictograph && j == .joiner
    consonant := j == .consonant || (s.consonant && (j.isFiller || j == .linker))
    linked := s.consonant && (j == .linker || (s.linked && j.isFiller)) }

/-- Whether the next character belongs to the symbol. -/
def joins (s : Seen) (j : Joint) : Bool :=
  if s.last = .carriageReturn ∧ j = .lineFeed then true
  else if s.last.isAlone || j.isAlone then false
  else if j.isMark || s.last == .prepend then true
  else
    match j with
    | .leading | .openSyllable | .closedSyllable => s.last == .leading
    | .vowel => s.last == .leading || s.last == .vowel || s.last == .openSyllable
    | .trailing =>
      s.last == .vowel || s.last == .openSyllable || s.last == .trailing ||
        s.last == .closedSyllable
    | .consonant => s.linked
    | .pictograph => s.joined
    | .flagLetter => s.oddFlag
    | _ => false

end Seen

/-- The rest of a symbol of which something was seen, and the symbols behind it. -/
def symbolsAfter (s : Seen) : List Char → Symbol × List Symbol
  | [] => ([], [])
  | c :: cs =>
    let j := Joint.ofChar c
    if s.joins j then
      let (rest, more) := symbolsAfter (s.next j) cs
      (c :: rest, more)
    else
      let (rest, more) := symbolsAfter (.first j) cs
      ([], (c :: rest) :: more)

/-- The symbols of a text, in order. -/
def symbols : List Char → List Symbol
  | [] => []
  | c :: cs =>
    let (rest, more) := symbolsAfter (.first (.ofChar c)) cs
    (c :: rest) :: more

theorem flatten_symbolsAfter (s : Seen) (cs : List Char) :
    (symbolsAfter s cs).1 ++ (symbolsAfter s cs).2.flatten = cs := by
  induction cs generalizing s with
  | nil => rfl
  | cons c cs ih =>
    simp only [symbolsAfter]
    split
    · simp [ih]
    · simp [ih]

/-- Put together again, the symbols are the text. -/
@[simp] theorem flatten_symbols (cs : List Char) : (symbols cs).flatten = cs := by
  cases cs with
  | nil => rfl
  | cons c cs => simp [symbols, flatten_symbolsAfter]

end ChordDrill.Text
