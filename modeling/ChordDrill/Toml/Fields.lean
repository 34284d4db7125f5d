import ChordDrill.Toml.Value

/-!
# ChordDrill.Toml.Fields

Records in a document. A record is a table with fields by name, or an array with the fields in
order; names that are not asked for and items beyond the last field do not matter.

* `fields?`          — the fields of a record.
* `required`         — a field that must be there.
* `optional`         — a field that has a default.
* `string?`, `strings?`, `boolean?`, `natural?` — the kinds of fields.
-/

namespace ChordDrill.Toml

/-- The fields of a record: what stands under each name. -/
abbrev Fields := String → Option Value

/-- The fields of a record with these names. A date-time is a record of which no name is known. -/
def fields? (names : List String) : Value → Option Fields
  | .table _ entries => some fun name => entries.lookup name
  | .array _ items => some fun name => (names.idxOf? name).bind fun i => items[i]?
  | .moment => some fun _ => none
  | _ => none

/-- A field that must be there. -/
def required {α : Type} (f : Fields) (name : String) (read : Value → Option α) : Option α :=
  match f name with
  | some v => read v
  | none => none

/-- A field that has a default. -/
def optional {α : Type} (f : Fields) (name : String) (read : Value → Option α) (default : α) :
    Option α :=
  match f name with
  | some v => read v
  | none => some default

namespace Value

def string? : Value → Option String
  | .string s => some s
  | _ => none

def strings? : Value → Option (List String)
  | .array _ items => items.mapM string?
  | _ => none

def boolean? : Value → Option Bool
  | .boolean b => some b
  | _ => none

/-- A number that is not negative. -/
def natural? : Value → Option Nat
  | .integer n => if 0 ≤ n then some n.toNat else none
  | _ => none

end Value

end ChordDrill.Toml
