import ChordDrill.Toml.Lexeme
import ChordDrill.Toml.Moment
import ChordDrill.Toml.Number
import ChordDrill.Toml.Value

/-!
# ChordDrill.Toml.Document

Whole TOML documents.

* `value?`   — a value, and what follows it.
* `Block`    — a header with the pairs below it, and `blocks?` for the blocks of a document.
* `document?` — the root table of a document.
-/

namespace ChordDrill.Toml

/-! ## Values -/

/-- The characters that end a word. -/
def endsWord (c : Char) : Bool :=
  isSpacer c || c == '\n' || c == '\r' || c == ',' || c == ']' || c == '}' || c == '#'

/-- The value that a word writes. -/
def ofWord? (word : List Char) : Option Value :=
  if word = "true".toList then some (.boolean true)
  else if word = "false".toList then some (.boolean false)
  else
    match integer? word with
    | some n => some (.integer n)
    | none =>
      if isFloat word then some .float
      else if isMoment word then some .moment
      else none

/-- A value made of one word, and what follows it. A date and a time may have a blank between
them. -/
def word? (cs : List Char) : Option (Value × List Char) :=
  let word := cs.takeWhile fun c => !endsWord c
  let rest := cs.dropWhile fun c => !endsWord c
  let spaced :=
    match rest with
    | ' ' :: after => isDate word && isZonedTime (after.takeWhile fun c => !endsWord c)
    | _ => false
  if spaced then some (.moment, rest.tail.dropWhile fun c => !endsWord c)
  else (ofWord? word).map fun v => (v, rest)

/-- The items of an array up to its closing bracket, and what follows it. Blanks, line ends and
comments may stand between them, and a comma after the last one. -/
def items? (item : List Char → Option (Value × List Char)) :
    Nat → List Char → Option (List Value × List Char)
  | 0, _ => none
  | n + 1, cs =>
    match skipFiller cs with
    | ']' :: rest => some ([], rest)
    | cs =>
      match item cs with
      | none => none
      | some (v, rest) =>
        match skipFiller rest with
        | ']' :: rest => some ([v], rest)
        | ',' :: rest => (items? item n rest).map fun (vs, rest) => (v :: vs, rest)
        | _ => none

/-- A key, an equality sign and a value, and what follows them. -/
def pair? (item : List Char → Option (Value × List Char)) (cs : List Char) :
    Option ((List String × String × Value) × List Char) :=
  match keyPath? cs with
  | some ((path, k), '=' :: rest) =>
    (item (skipSpacers rest)).map fun (v, rest) => ((path, k, v), rest)
  | _ => none

/-- The pairs of a table in braces, at least one, up to the closing brace, and what follows it. -/
def bracedPairs? (item : List Char → Option (Value × List Char)) :
    Nat → List Char → Option (List (List String × String × Value) × List Char)
  | 0, _ => none
  | n + 1, cs =>
    match pair? item cs with
    | none => none
    | some (p, rest) =>
      match skipSpacers rest with
      | '\x7d' :: rest => some ([p], rest)
      | ',' :: rest => (bracedPairs? item n rest).map fun (ps, rest) => (p :: ps, rest)
      | _ => none

/-- A value in which arrays and tables in braces nest at most `depth` deep, and what follows it. -/
def value? (depth : Nat) (cs : List Char) : Option (Value × List Char) :=
  match cs with
  | '"' :: _ | '\'' :: _ => (string? cs).map fun (s, rest) => (.string s, rest)
  | '[' :: rest =>
    match depth with
    | 0 => none
    | depth + 1 =>
      (items? (value? depth) (rest.length + 1) rest).map fun (vs, rest) => (.array false vs, rest)
  | '\x7b' :: rest =>
    match depth with
    | 0 => none
    | depth + 1 =>
      match skipSpacers rest with
      | '\x7d' :: rest => some (.table .inline [], rest)
      | _ =>
        match bracedPairs? (value? depth) (rest.length + 1) rest with
        | none => none
        | some (ps, rest) => (Table.pairs? [] ps).map fun t => (.table .inline t, rest)
  | _ => word? cs
termination_by structural depth

/-! ## Blocks -/

/-- What opens a block. -/
inductive Header where
  | table (path : List String) (k : String)
  | element (path : List String) (k : String)
deriving DecidableEq, Repr

/-- One line that is not empty. -/
inductive Statement where
  | header (h : Header)
  | pair (path : List String) (k : String) (v : Value)
deriving Repr

/-- A header or a pair, without the end of its line, and what follows it. -/
def statement? (cs : List Char) : Option (Statement × List Char) :=
  match cs with
  | '[' :: '[' :: rest =>
    match keyPath? rest with
    | some ((path, k), ']' :: ']' :: rest) => some (.header (.element path k), rest)
    | _ => none
  | '[' :: rest =>
    match keyPath? rest with
    | some ((path, k), ']' :: rest) => some (.header (.table path k), rest)
    | _ => none
  | _ => (pair? (value? depthLimit) cs).map fun ((path, k, v), rest) => (.pair path k v, rest)

/-- The statements of the lines that are left. Each line takes at least one character, and `n`
bounds their number. -/
def statements? : Nat → List Char → Option (List Statement)
  | 0, _ => none
  | n + 1, cs =>
    match skipFiller cs with
    | [] => some []
    | cs =>
      match statement? cs with
      | none => none
      | some (s, rest) =>
        match endLine? rest with
        | none => none
        | some rest => (statements? n rest).map (s :: ·)

/-- The pairs before the first header, and the blocks of the headers. -/
def blocks : List Statement → List (List String × String × Value) ×
    List (Header × List (List String × String × Value))
  | [] => ([], [])
  | .pair path k v :: rest =>
    let (top, bs) := blocks rest
    ((path, k, v) :: top, bs)
  | .header h :: rest =>
    let (body, bs) := blocks rest
    ([], (h, body) :: bs)

/-- The root table after the blocks of some headers. -/
def addBlocks (t : Table) : List (Header × List (List String × String × Value)) → Option Table
  | [] => some t
  | (h, body) :: rest =>
    let t' :=
      match h with
      | .table path k => t.open? path k fun sub => sub.pairs? body
      | .element path k => t.push? path k fun sub => sub.pairs? body
    match t' with
    | some t' => addBlocks t' rest
    | none => none

/-- A byte order mark at the front does not count. -/
def skipMark : List Char → List Char
  | c :: cs => if c = '\uFEFF' then cs else c :: cs
  | [] => []

/-- The root table of a document; `none` where the text is no document. -/
def document? (s : String) : Option Table :=
  let cs := skipMark s.toList
  match statements? (cs.length + 1) cs with
  | none => none
  | some ss =>
    let (top, bs) := blocks ss
    match Table.pairs? [] top with
    | none => none
    | some root => addBlocks root bs

end ChordDrill.Toml
