import ChordDrill.Text.CaseTable

/-!
# ChordDrill.Text.CaseMap

Upper and lower case, for single characters and for texts.

* `upperChar`, `lowerChar` — the full mapping of one character, whatever stands around it.
* `lower`                  — lower case of a text: a capital sigma at the end of a word becomes the
                             final form, every other character is mapped on its own.
-/

namespace ChordDrill.Text

/-- The mapping of a code point by the first table row that holds it. -/
def CaseShift.apply? (s : CaseShift) (n : Nat) : Option Char :=
  if s.first ≤ n ∧ n ≤ s.last ∧ (n - s.first) % s.step = 0 then
    some (Char.ofNat (n + s.delta).toNat)
  else none

/-- Map one character by the two tables of a case. -/
def mapCase (expansions : List (Nat × List Nat)) (shifts : List CaseShift) (c : Char) : List Char :=
  match expansions.lookup c.toNat with
  | some ns => ns.map Char.ofNat
  | none => [(shifts.findSome? fun s => s.apply? c.toNat).getD c]

def upperChar (c : Char) : List Char := mapCase upperExpansions upperShifts c

def lowerChar (c : Char) : List Char := mapCase lowerExpansions lowerShifts c

/-- Whether a character is passed over when one looks for the letters around a sigma. -/
def isCaseIgnorable (c : Char) : Bool := inRanges caseIgnorableRanges c

/-- Whether the first character that is not passed over has a case. -/
def startsCased (cs : List Char) : Bool :=
  match cs.dropWhile isCaseIgnorable with
  | c :: _ => inRanges casedRanges c
  | [] => false

/-- Lower case of what follows `before`, which is given last character first. -/
def lowerFrom (before : List Char) : List Char → List Char
  | [] => []
  | c :: cs =>
    let here :=
      if c = 'Σ' then
        if startsCased before && !startsCased cs then ['ς'] else ['σ']
      else lowerChar c
    here ++ lowerFrom (c :: before) cs

/-- Lower case of a text. -/
def lower (cs : List Char) : List Char := lowerFrom [] cs

/-- Lower case of a string. -/
def lowerString (s : String) : String := String.ofList (lower s.toList)

end ChordDrill.Text
