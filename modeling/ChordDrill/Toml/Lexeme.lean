import ChordDrill.Text.Digit

/-!
# ChordDrill.Toml.Lexeme

The small pieces of a TOML document: blanks, comments, line ends, the four forms of strings, and
keys. A reader takes the characters that are left and gives what it read with what follows it.

* `endLine?`    — the end of a line, with the blanks and the comment before it.
* `string?`     — a string in any of its forms.
* `keyPath?`    — a dotted key.
-/

namespace ChordDrill.Toml

def isSpacer (c : Char) : Bool := c == ' ' || c == '\t'

/-- The characters that stand for themselves in strings and comments. -/
def isPlain (c : Char) : Bool := c == '\t' || (0x20 ≤ c.toNat && c.toNat != 0x7F)

def skipSpacers (cs : List Char) : List Char := cs.dropWhile isSpacer

/-- What follows a line end: a line feed, or a carriage return with a line feed. -/
def newline? : List Char → Option (List Char)
  | '\n' :: cs => some cs
  | '\r' :: '\n' :: cs => some cs
  | _ => none

def skipComment : List Char → List Char
  | '#' :: cs => cs.dropWhile isPlain
  | cs => cs

/-- What follows the end of a line; blanks and a comment may stand before it. -/
def endLine? (cs : List Char) : Option (List Char) :=
  match skipComment (skipSpacers cs) with
  | [] => some []
  | rest => newline? rest

/-- What follows blanks and line ends. -/
def skipLines : List Char → List Char
  | ' ' :: cs | '\t' :: cs | '\n' :: cs => skipLines cs
  | '\r' :: '\n' :: cs => skipLines cs
  | cs => cs

theorem length_skipLines_le (cs : List Char) : (skipLines cs).length ≤ cs.length := by
  fun_induction skipLines cs <;> simp <;> omega

theorem length_dropWhile_le (p : Char → Bool) (cs : List Char) :
    (cs.dropWhile p).length ≤ cs.length := (List.dropWhile_suffix p).length_le

/-- What follows blanks, line ends and comments. -/
def skipFiller (cs : List Char) : List Char :=
  match _h : skipLines cs with
  | '#' :: rest => skipFiller (rest.dropWhile isPlain)
  | rest => rest
termination_by cs.length
decreasing_by
  have h₁ := length_skipLines_le cs
  have h₂ := length_dropWhile_le isPlain rest
  simp only [_h, List.length_cons] at h₁
  omega

/-! ## Strings -/

/-- The character meant by what follows a backslash, and how many characters write it. -/
def escape? : List Char → Option (Char × Nat)
  | 'b' :: _ => some ('\x08', 1)
  | 't' :: _ => some ('\t', 1)
  | 'n' :: _ => some ('\n', 1)
  | 'f' :: _ => some ('\x0c', 1)
  | 'r' :: _ => some ('\r', 1)
  | '"' :: _ => some ('"', 1)
  | '\\' :: _ => some ('\\', 1)
  | 'u' :: cs => ((Text.fixedNumber? 16 4 cs).bind fun p => Text.char? p.1).map fun c => (c, 5)
  | 'U' :: cs => ((Text.fixedNumber? 16 8 cs).bind fun p => Text.char? p.1).map fun c => (c, 9)
  | _ => none

/-- The text of a basic string, and what follows its closing quote. -/
def basicRest : List Char → Option (List Char × List Char)
  | [] => none
  | '"' :: cs => some ([], cs)
  | '\\' :: cs =>
    match escape? cs with
    | some (c, n) => (basicRest (cs.drop n)).map fun (text, rest) => (c :: text, rest)
    | none => none
  | c :: cs =>
    if isPlain c then (basicRest cs).map fun (text, rest) => (c :: text, rest) else none
termination_by cs => cs.length
decreasing_by
  all_goals
    simp only [List.length_cons, List.length_drop]
    omega

/-- The text of a basic string of several lines, and what follows its closing quotes. One or two
quotes in a row belong to the text, also before the closing ones. A backslash at the end of a line
takes the blanks and line ends after it away. -/
def multiBasicRest : List Char → Option (List Char × List Char)
  | [] => none
  | '"' :: '"' :: '"' :: '"' :: '"' :: cs => some (['"', '"'], cs)
  | '"' :: '"' :: '"' :: '"' :: cs => some (['"'], cs)
  | '"' :: '"' :: '"' :: cs => some ([], cs)
  | '\\' :: cs =>
    match newline? (skipSpacers cs) with
    | some _ => multiBasicRest (skipLines cs)
    | none =>
      match escape? cs with
      | some (c, n) => (multiBasicRest (cs.drop n)).map fun (text, rest) => (c :: text, rest)
      | none => none
  | '\n' :: cs => (multiBasicRest cs).map fun (text, rest) => ('\n' :: text, rest)
  | '\r' :: '\n' :: cs => (multiBasicRest cs).map fun (text, rest) => ('\n' :: text, rest)
  | c :: cs =>
    if isPlain c then (multiBasicRest cs).map fun (text, rest) => (c :: text, rest) else none
termination_by cs => cs.length
decreasing_by
  · have h := length_skipLines_le cs
    simp only [List.length_cons]
    omega
  all_goals
    simp only [List.length_cons, List.length_drop]
    omega

/-- The text of a literal string, and what follows its closing apostrophe. -/
def literalRest : List Char → Option (List Char × List Char)
  | [] => none
  | '\'' :: cs => some ([], cs)
  | c :: cs =>
    if isPlain c then (literalRest cs).map fun (text, rest) => (c :: text, rest) else none

/-- The text of a literal string of several lines, and what follows its closing apostrophes. -/
def multiLiteralRest : List Char → Option (List Char × List Char)
  | [] => none
  | '\'' :: '\'' :: '\'' :: '\'' :: '\'' :: cs => some (['\'', '\''], cs)
  | '\'' :: '\'' :: '\'' :: '\'' :: cs => some (['\''], cs)
  | '\'' :: '\'' :: '\'' :: cs => some ([], cs)
  | '\n' :: cs => (multiLiteralRest cs).map fun (text, rest) => ('\n' :: text, rest)
  | '\r' :: '\n' :: cs => (multiLiteralRest cs).map fun (text, rest) => ('\n' :: text, rest)
  | c :: cs =>
    if isPlain c then (multiLiteralRest cs).map fun (text, rest) => (c :: text, rest) else none

/-- A line end right after the opening quotes of several lines does not count. -/
def skipNewline (cs : List Char) : List Char := (newline? cs).getD cs

/-- A string of one line, and what follows it. -/
def lineString? : List Char → Option (String × List Char)
  | '"' :: cs => (basicRest cs).map fun (text, rest) => (String.ofList text, rest)
  | '\'' :: cs => (literalRest cs).map fun (text, rest) => (String.ofList text, rest)
  | _ => none

/-- A string in any of its forms, and what follows it. -/
def string? : List Char → Option (String × List Char)
  | '"' :: '"' :: '"' :: cs =>
    (multiBasicRest (skipNewline cs)).map fun (text, rest) => (String.ofList text, rest)
  | '\'' :: '\'' :: '\'' :: cs =>
    (multiLiteralRest (skipNewline cs)).map fun (text, rest) => (String.ofList text, rest)
  | cs => lineString? cs

/-! ## Keys -/

def isBareKey (c : Char) : Bool := c.isAlphanum || c == '_' || c == '-'

/-- A key without dots, and what follows it. -/
def simpleKey? (cs : List Char) : Option (String × List Char) :=
  match cs.takeWhile isBareKey with
  | [] => lineString? cs
  | bare => some (String.ofList bare, cs.dropWhile isBareKey)

/-- A key of at most `n` parts with dots between them, and what follows it. Blanks around the
parts do not count. -/
def dottedKey? : Nat → List Char → Option (List String × List Char)
  | 0, _ => none
  | n + 1, cs =>
    match simpleKey? (skipSpacers cs) with
    | none => none
    | some (k, rest) =>
      match skipSpacers rest with
      | '.' :: rest => (dottedKey? n rest).map fun (ks, rest) => (k :: ks, rest)
      | rest => some ([k], rest)

/-- The deepest that keys, arrays and tables in braces may nest. -/
def depthLimit : Nat := 79

/-- A key, split into the path before the last part and the last part, and what follows it. -/
def keyPath? (cs : List Char) : Option ((List String × String) × List Char) :=
  match dottedKey? depthLimit cs with
  | none => none
  | some (ks, rest) => ks.getLast?.map fun k => ((ks.dropLast, k), rest)

end ChordDrill.Toml
