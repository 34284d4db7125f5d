import ChordDrill.Json
import ChordDrill.Toml.Document
import ChordDrill.Toml.Fields

/-!
# ChordDrill.Catalog.Entry

The records of catalog files. A record has three fields, or is an array of the three in order.

* `Entry.ofToml?` — the records under `action` of a TOML document.
* `Entry.ofJson?` — the records of a JSON array.
-/

namespace ChordDrill.Catalog

/-- A record of a catalog file. -/
structure Entry where
  context : List String
  combo : String
  description : String
deriving DecidableEq, Repr

namespace Entry

/-- The names of the fields, in order. -/
def fieldNames : List String := ["context", "combo", "description"]

/-! ## TOML -/

def ofTomlValue? (v : Toml.Value) : Option Entry := do
  let f ← Toml.fields? fieldNames v
  let context ← Toml.required f "context" Toml.Value.strings?
  let combo ← Toml.required f "combo" Toml.Value.string?
  let description ← Toml.required f "description" Toml.Value.string?
  some { context, combo, description }

/-- The records of an array of them. -/
def ofTomlItems? : Toml.Value → Option (List Entry)
  | .array _ items => items.mapM ofTomlValue?
  | _ => none

/-- The records under `action`; there are none without it. -/
def ofToml? (text : String) : Option (List Entry) := do
  let root ← Toml.document? text
  Toml.optional root.get? "action" ofTomlItems? []

/-! ## JSON -/

def jsonText? : Json → Option String
  | .string text => text
  | _ => none

def jsonTexts? : Json → Option (List String)
  | .array items => items.mapM jsonText?
  | _ => none

/-- The only member of a name; neither none nor several. -/
def onlyMember? (members : List (Option String × Json)) (name : String) : Option Json :=
  match members.filter fun m => m.1 = some name with
  | [m] => some m.2
  | _ => none

/-- The three fields of a record. An array has no more items, an object may have other members,
and all names are proper text. -/
def jsonFields? : Json → Option (Json × Json × Json)
  | .array [context, combo, description] => some (context, combo, description)
  | .object members => do
    if members.all fun m => m.1.isSome then
      let context ← onlyMember? members "context"
      let combo ← onlyMember? members "combo"
      let description ← onlyMember? members "description"
      some (context, combo, description)
    else none
  | _ => none

def ofJsonValue? (j : Json) : Option Entry := do
  let (context, combo, description) ← jsonFields? j
  let context ← jsonTexts? context
  let combo ← jsonText? combo
  let description ← jsonText? description
  some { context, combo, description }

/-- The records of a text that is an array of them. -/
def ofJson? (text : String) : Option (List Entry) := do
  match ← Json.document? text with
  | .array items => items.mapM ofJsonValue?
  | _ => none

end Entry

end ChordDrill.Catalog
