import ChordDrill.Text.Digit

/-!
# ChordDrill.Json

Strict JSON texts.

* `Json`           — a value; a text that holds half of a surrogate pair is kept as unreadable.
* `Json.document?` — the value of a text.
-/

namespace ChordDrill

/-- A JSON value. Numbers are not kept: nothing asks for them. -/
inductive Json where
  | null
  | boolean (b : Bool)
  | number
  /-- A string; `none` if it holds half of a surrogate pair. -/
  | string (text : Option String)
  | array (items : List Json)
  /-- The members in order; names may repeat. -/
  | object (members : List (Option String × Json))
deriving Repr

namespace Json

def isSpace (c : Char) : Bool := c == ' ' || c == '\t' || c == '\n' || c == '\r'

def skipSpace (cs : List Char) : List Char := cs.dropWhile isSpace

/-! ## Strings -/

/-- The code point meant by a letter after a backslash. -/
def escape? : Char → Option Nat
  | '"' => some 0x22
  | '\\' => some 0x5C
  | '/' => some 0x2F
  | 'b' => some 0x08
  | 'f' => some 0x0C
  | 'n' => some 0x0A
  | 'r' => some 0x0D
  | 't' => some 0x09
  | _ => none

/-- The code points of a string up to its closing quote, and what follows it. Each escape gives
one code point, which may be half of a surrogate pair. -/
def stringRest : List Char → Option (List Nat × List Char)
  | [] => none
  | '"' :: cs => some ([], cs)
  | '\\' :: 'u' :: a :: b :: c :: d :: cs =>
    match Text.number? 16 [a, b, c, d] with
    | some n => (stringRest cs).map fun (ns, rest) => (n :: ns, rest)
    | none => none
  | '\\' :: c :: cs =>
    match escape? c with
    | some n => (stringRest cs).map fun (ns, rest) => (n :: ns, rest)
    | none => none
  | c :: cs =>
    if c.toNat < 0x20 then none
    else (stringRest cs).map fun (ns, rest) => (c.toNat :: ns, rest)

/-- The characters of code points, each surrogate pair joined; `none` if half of a pair stands
alone. -/
def characters? : List Nat → Option (List Char)
  | [] => some []
  | [n] => (Text.char? n).map fun c => [c]
  | m :: n :: ns =>
    if 0xD800 ≤ m ∧ m < 0xDC00 ∧ 0xDC00 ≤ n ∧ n < 0xE000 then
      match Text.char? (0x10000 + (m - 0xD800) * 0x400 + (n - 0xDC00)) with
      | some c => (characters? ns).map (c :: ·)
      | none => none
    else
      match Text.char? m with
      | some c => (characters? (n :: ns)).map (c :: ·)
      | none => none

/-- The text of a string behind its opening quote, and what follows the closing one. -/
def text? (cs : List Char) : Option (Option String × List Char) :=
  (stringRest cs).map fun (ns, rest) => ((characters? ns).map String.ofList, rest)

/-! ## Words -/

/-- Whether a text is an exponent, or nothing. -/
def isExponent : List Char → Bool
  | [] => true
  | c :: cs =>
    let digits :=
      match cs with
      | '+' :: ds | '-' :: ds => ds
      | ds => ds
    (c == 'e' || c == 'E') && !digits.isEmpty && digits.all Char.isDigit

/-- Whether a text is a fraction or an exponent, both, or nothing. -/
def isFraction : List Char → Bool
  | '.' :: cs =>
    !(cs.takeWhile Char.isDigit).isEmpty && isExponent (cs.dropWhile Char.isDigit)
  | cs => isExponent cs

/-- Whether a word writes a number. -/
def isNumber (word : List Char) : Bool :=
  let unsigned :=
    match word with
    | '-' :: cs => cs
    | cs => cs
  let isWhole :=
    match unsigned.takeWhile Char.isDigit with
    | [] => false
    | '0' :: ds => ds.isEmpty
    | _ => true
  isWhole && isFraction (unsigned.dropWhile Char.isDigit)

def ofWord? (word : List Char) : Option Json :=
  if word = "null".toList then some .null
  else if word = "true".toList then some (.boolean true)
  else if word = "false".toList then some (.boolean false)
  else if isNumber word then some .number
  else none

def isWordChar (c : Char) : Bool := c.isAlphanum || c == '+' || c == '-' || c == '.'

/-! ## Values -/

/-- The items of an array, at least one, up to the closing bracket, and what follows it. -/
def items? (item : List Char → Option (Json × List Char)) :
    Nat → List Char → Option (List Json × List Char)
  | 0, _ => none
  | n + 1, cs =>
    match item (skipSpace cs) with
    | none => none
    | some (v, rest) =>
      match skipSpace rest with
      | ']' :: rest => some ([v], rest)
      | ',' :: rest => (items? item n rest).map fun (vs, rest) => (v :: vs, rest)
      | _ => none

/-- A name, a colon and a value, and what follows them. -/
def member? (item : List Char → Option (Json × List Char)) (cs : List Char) :
    Option ((Option String × Json) × List Char) :=
  match skipSpace cs with
  | '"' :: cs =>
    match text? cs with
    | none => none
    | some (name, rest) =>
      match skipSpace rest with
      | ':' :: rest => (item (skipSpace rest)).map fun (v, rest) => ((name, v), rest)
      | _ => none
  | _ => none

/-- The members of an object, at least one, up to the closing brace, and what follows it. -/
def members? (item : List Char → Option (Json × List Char)) :
    Nat → List Char → Option (List (Option String × Json) × List Char)
  | 0, _ => none
  | n + 1, cs =>
    match member? item cs with
    | none => none
    | some (m, rest) =>
      match skipSpace rest with
      | '\x7d' :: rest => some ([m], rest)
      | ',' :: rest => (members? item n rest).map fun (ms, rest) => (m :: ms, rest)
      | _ => none

/-- A value in which arrays and objects nest at most `depth` deep, and what follows it. -/
def value? (depth : Nat) (cs : List Char) : Option (Json × List Char) :=
  match cs with
  | '"' :: rest => (text? rest).map fun (s, rest) => (.string s, rest)
  | '[' :: rest =>
    match depth with
    | 0 => none
    | depth + 1 =>
      match skipSpace rest with
      | ']' :: rest => some (.array [], rest)
      | _ => (items? (value? depth) rest.length rest).map fun (vs, rest) => (.array vs, rest)
  | '\x7b' :: rest =>
    match depth with
    | 0 => none
    | depth + 1 =>
      match skipSpace rest with
      | '\x7d' :: rest => some (.object [], rest)
      | _ => (members? (value? depth) rest.length rest).map fun (ms, rest) => (.object ms, rest)
  | _ => (ofWord? (cs.takeWhile isWordChar)).map fun v => (v, cs.dropWhile isWordChar)
termination_by structural depth

/-- The value of a text; `none` where the text is not JSON. A text cannot nest deeper than it is
long. -/
def document? (s : String) : Option Json :=
  let cs := skipSpace s.toList
  match value? cs.length cs with
  | some (v, rest) => if skipSpace rest = [] then some v else none
  | none => none

end Json

end ChordDrill
