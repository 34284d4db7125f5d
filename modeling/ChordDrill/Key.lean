/-!
# ChordDrill.Key

The closed vocabulary of keys.

* `Key`, `Key.all`   — the keys, and all of them in vocabulary order.
* `Key.name`         — the canonical name, as written in combos.
* `Key.read?`        — the key meant by a raw text: a synonym or a canonical name.
* `Key.ordered`      — a set of keys listed in vocabulary order.
-/

namespace ChordDrill

/-- A named key of the vocabulary. -/
inductive Key where
  | esc | enter | tab | space | backspace | capsLock | ctrl | alt | shift | super | insert
  | delete | home | endKey | pageUp | pageDown | up | down | left | right | digit0 | digit1
  | digit2 | digit3 | digit4 | digit5 | digit6 | digit7 | digit8 | digit9 | letterA | letterB
  | letterC | letterD | letterE | letterF | letterG | letterH | letterI | letterJ | letterK
  | letterL | letterM | letterN | letterO | letterP | letterQ | letterR | letterS | letterT
  | letterU | letterV | letterW | letterX | letterY | letterZ | f1 | f2 | f3 | f4 | f5 | f6
  | f7 | f8 | f9 | f10 | f11 | f12 | grave | minus | equal | leftBracket | rightBracket
  | backslash | semicolon | apostrophe | comma | period | slash
deriving DecidableEq, Repr

namespace Key

/-- Every key, in vocabulary order. -/
def all : List Key :=
  [.esc, .enter, .tab, .space, .backspace, .capsLock, .ctrl, .alt, .shift, .super, .insert,
   .delete, .home, .endKey, .pageUp, .pageDown, .up, .down, .left, .right, .digit0, .digit1,
   .digit2, .digit3, .digit4, .digit5, .digit6, .digit7, .digit8, .digit9, .letterA, .letterB,
   .letterC, .letterD, .letterE, .letterF, .letterG, .letterH, .letterI, .letterJ, .letterK,
   .letterL, .letterM, .letterN, .letterO, .letterP, .letterQ, .letterR, .letterS, .letterT,
   .letterU, .letterV, .letterW, .letterX, .letterY, .letterZ, .f1, .f2, .f3, .f4, .f5, .f6,
   .f7, .f8, .f9, .f10, .f11, .f12, .grave, .minus, .equal, .leftBracket, .rightBracket,
   .backslash, .semicolon, .apostrophe, .comma, .period, .slash]

/-- Canonical name, as written in combos. -/
def name : Key → String
  | .esc => "esc"
  | .enter => "enter"
  | .tab => "tab"
  | .space => "space"
  | .backspace => "backspace"
  | .capsLock => "capslock"
  | .ctrl => "ctrl"
  | .alt => "alt"
  | .shift => "shift"
  | .super => "super"
  | .insert => "insert"
  | .delete => "delete"
  | .home => "home"
  | .endKey => "end"
  | .pageUp => "pageup"
  | .pageDown => "pagedown"
  | .up => "up"
  | .down => "down"
  | .left => "left"
  | .right => "right"
  | .digit0 => "0"
  | .digit1 => "1"
  | .digit2 => "2"
  | .digit3 => "3"
  | .digit4 => "4"
  | .digit5 => "5"
  | .digit6 => "6"
  | .digit7 => "7"
  | .digit8 => "8"
  | .digit9 => "9"
  | .letterA => "a"
  | .letterB => "b"
  | .letterC => "c"
  | .letterD => "d"
  | .letterE => "e"
  | .letterF => "f"
  | .letterG => "g"
  | .letterH => "h"
  | .letterI => "i"
  | .letterJ => "j"
  | .letterK => "k"
  | .letterL => "l"
  | .letterM => "m"
  | .letterN => "n"
  | .letterO => "o"
  | .letterP => "p"
  | .letterQ => "q"
  | .letterR => "r"
  | .letterS => "s"
  | .letterT => "t"
  | .letterU => "u"
  | .letterV => "v"
  | .letterW => "w"
  | .letterX => "x"
  | .letterY => "y"
  | .letterZ => "z"
  | .f1 => "f1"
  | .f2 => "f2"
  | .f3 => "f3"
  | .f4 => "f4"
  | .f5 => "f5"
  | .f6 => "f6"
  | .f7 => "f7"
  | .f8 => "f8"
  | .f9 => "f9"
  | .f10 => "f10"
  | .f11 => "f11"
  | .f12 => "f12"
  | .grave => "`"
  | .minus => "-"
  | .equal => "="
  | .leftBracket => "["
  | .rightBracket => "]"
  | .backslash => "\\"
  | .semicolon => ";"
  | .apostrophe => "'"
  | .comma => ","
  | .period => "."
  | .slash => "/"

/-- The canonical name, character by character. -/
def letters (k : Key) : List Char := k.name.toList

/-- Characters accepted in place of a key name. -/
def synonyms : List (Char × Key) := [('\t', .tab), ('\r', .enter), (' ', .space)]

/-- The key whose canonical name is `raw`. Case matters. -/
def ofLetters? (raw : List Char) : Option Key := all.find? fun k => k.letters == raw

/-- The key meant by a raw text: a synonym on its own first, a canonical name otherwise. -/
def read? (raw : List Char) : Option Key :=
  match synonyms.find? fun p => [p.1] == raw with
  | some p => some p.2
  | none => ofLetters? raw

/-- The keys that modify others. -/
def isModifier : Key → Bool
  | .ctrl | .alt | .shift | .super => true
  | _ => false

/-- The keys of `ks` in vocabulary order, each once. -/
def ordered (ks : List Key) : List Key := all.filter fun k => k ∈ ks

theorem mem_all (k : Key) : k ∈ all := by cases k <;> decide

theorem nodup_all : all.Nodup := by decide

@[simp] theorem mem_ordered {k : Key} {ks : List Key} : k ∈ ordered ks ↔ k ∈ ks := by
  simp [ordered, mem_all]

end Key

end ChordDrill
