import ChordDrill.Toml.Lexeme
import ChordDrill.Toml.Number
import ChordDrill.Toml.Value

/-!
# ChordDrill.Toml.Printer

TOML documents of one level: sections with simple values.

* `quoted`  — a string in the first of its forms that fits.
* `Simple`  — the values that a section may hold, and `Simple.letters` for their text.
* `render`  — the text of a document.
-/

namespace ChordDrill.Toml

/-! ## Strings -/

/-- The forms of a string. -/
inductive Form where
  | basic
  | literal
  | multiBasic
  | multiLiteral
deriving DecidableEq, Repr

/-- The length of the longest run of `q`, when `current` of them stand right before the text. -/
def longestRun (q : Char) (current : Nat) : List Char → Nat
  | [] => current
  | c :: cs => if c = q then longestRun q (current + 1) cs else max current (longestRun q 0 cs)

/-- The first form that holds the text without escapes; else the basic form that keeps its lines. -/
def formOf (cs : List Char) : Form :=
  let oneLine := cs.all isPlain
  let lines := cs.all fun c => isPlain c || c == '\n'
  if oneLine ∧ '\\' ∉ cs ∧ '"' ∉ cs then .basic
  else if oneLine ∧ '\'' ∉ cs then .literal
  else if lines ∧ '\\' ∉ cs ∧ longestRun '"' 0 cs ≤ 2 then .multiBasic
  else if lines ∧ longestRun '\'' 0 cs ≤ 2 then .multiLiteral
  else if '\n' ∈ cs then .multiBasic
  else .basic

/-- Hexadecimal digit of a value below sixteen, upper case. -/
def hexLetter (n : Nat) : Char := if n < 10 then Char.ofNat (48 + n) else Char.ofNat (55 + n)

/-- A character in a basic string. -/
def escapeLetters (c : Char) : List Char :=
  if c = '\x08' then ['\\', 'b']
  else if c = '\t' then ['\\', 't']
  else if c = '\n' then ['\\', 'n']
  else if c = '\x0c' then ['\\', 'f']
  else if c = '\r' then ['\\', 'r']
  else if c = '"' then ['\\', '"']
  else if c = '\\' then ['\\', '\\']
  else if isPlain c then [c]
  else ['\\', 'u', '0', '0', hexLetter (c.toNat / 16), hexLetter (c.toNat % 16)]

/-- A text in a basic string of several lines, when `quotes` bare quotes stand right before it. Of
three quotes in a row the last one is escaped. -/
def multiBasicLetters (quotes : Nat) : List Char → List Char
  | [] => []
  | c :: cs =>
    if c = '"' ∧ quotes < 2 then c :: multiBasicLetters (quotes + 1) cs
    else if c = '\n' then c :: multiBasicLetters 0 cs
    else escapeLetters c ++ multiBasicLetters 0 cs

/-- A text of several lines begins on a line of its own. -/
def opening (cs : List Char) : List Char := if '\n' ∈ cs then ['\n'] else []

/-- A string as a value. -/
def quoted (cs : List Char) : List Char :=
  match formOf cs with
  | .basic => '"' :: cs.flatMap escapeLetters ++ ['"']
  | .literal => '\'' :: cs ++ ['\'']
  | .multiBasic => ['"', '"', '"'] ++ opening cs ++ multiBasicLetters 0 cs ++ ['"', '"', '"']
  | .multiLiteral => ['\'', '\'', '\''] ++ opening cs ++ cs ++ ['\'', '\'', '\'']

/-! ## Documents -/

/-- The values that a section may hold. -/
inductive Simple where
  | natural (n : Nat)
  | boolean (b : Bool)
  | string (s : String)
  | strings (l : List String)
deriving DecidableEq, Repr

namespace Simple

/-- The value that is read back. -/
def value : Simple → Value
  | .natural n => .integer n
  | .boolean b => .boolean b
  | .string s => .string s
  | .strings l => .array false (l.map .string)

/-- Whether the value can be written: integers have 64 bits with sign. -/
def fits : Simple → Bool
  | .natural n => n < integerLimit
  | _ => true

/-- The items of an array one per line. -/
def lineLetters (s : String) : List Char := "    ".toList ++ quoted s.toList ++ [',', '\n']

def letters : Simple → List Char
  | .natural n => Nat.toDigits 10 n
  | .boolean true => "true".toList
  | .boolean false => "false".toList
  | .string s => quoted s.toList
  | .strings [] => ['[', ']']
  | .strings [s] => '[' :: quoted s.toList ++ [']']
  | .strings l => ['[', '\n'] ++ l.flatMap lineLetters ++ [']']

end Simple

/-- A named list of values. -/
structure Section where
  name : String
  entries : List (String × Simple)
deriving DecidableEq, Repr

namespace Section

def entryLetters (e : String × Simple) : List Char :=
  e.1.toList ++ [' ', '=', ' '] ++ e.2.letters ++ ['\n']

def letters (s : Section) : List Char :=
  '[' :: s.name.toList ++ [']', '\n'] ++ s.entries.flatMap entryLetters

/-- The table that is read back. -/
def table (s : Section) : Table := s.entries.map fun e => (e.1, e.2.value)

def fits (s : Section) : Bool := s.entries.all fun e => e.2.fits

end Section

/-- The text of a document: an empty line stands between two sections. -/
def render (ss : List Section) : String :=
  String.ofList (List.intercalate ['\n'] (ss.map Section.letters))

end ChordDrill.Toml
