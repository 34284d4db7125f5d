import ChordDrill.Catalog
import ChordDrill.Catalog.Entry
import ChordDrill.Folder

/-!
# ChordDrill.Catalog.File

Catalogs in files. The extension of the name tells the format.

* `Catalog.Fault`   — why a file gives no catalog.
* `Catalog.load`    — the catalog of a file.
* `Catalog.loadAll` — the catalogs of several files, one after the other.
-/

namespace ChordDrill.Catalog

/-- Why a file gives no catalog. -/
inductive Fault where
  | file (path : String) (e : FileFault)
  | toml (path : String)
  | json (path : String)
  | unsupportedFormat (path : String)
  | entry (path : String) (index : Nat) (e : Combo.Fault)
deriving DecidableEq, Repr

/-- The text shown to the user. -/
def Fault.message : Fault → String
  | .file path e => "IO error reading catalog " ++ path ++ ": " ++ e.message
  | .toml path => "Invalid TOML catalog " ++ path
  | .json path => "Invalid JSON catalog " ++ path
  | .unsupportedFormat path =>
    "Unsupported catalog format: " ++ path ++ " (expected .toml or .json)"
  | .entry path index e => "Entry " ++ toString index ++ " of " ++ path ++ ": " ++ e.message

/-- The records of a text in the format of an extension. -/
def entries (path text : String) : Except Fault (List Entry) :=
  match extension? path with
  | some "toml" =>
    match Entry.ofToml? text with
    | some es => .ok es
    | none => .error (.toml path)
  | some "json" =>
    match Entry.ofJson? text with
    | some es => .ok es
    | none => .error (.json path)
  | _ => .error (.unsupportedFormat path)

/-- The shortcuts of records counted from `index`, or the fault of the first one whose combo cannot
be read. -/
def actionsFrom (path : String) (index : Nat) : List Entry → Except Fault (List Action)
  | [] => .ok []
  | e :: es =>
    match Action.read e.context e.combo e.description with
    | .error fault => .error (.entry path index fault)
    | .ok a =>
      match actionsFrom path (index + 1) es with
      | .ok as => .ok (a :: as)
      | .error fault => .error fault

/-- The catalog of a file. -/
def load (f : Files) (path : String) : Except Fault Catalog :=
  match f.readText path with
  | .error e => .error (.file path e)
  | .ok text =>
    match entries path text with
    | .error e => .error e
    | .ok es =>
      match actionsFrom path 0 es with
      | .ok as => .ok ⟨as⟩
      | .error e => .error e

/-- A catalog extended by the catalogs of files, or the fault of the first file that has one. -/
def loadAll (f : Files) (c : Catalog) : List String → Except Fault Catalog
  | [] => .ok c
  | path :: paths =>
    match load f path with
    | .ok d => loadAll f (c.extend d) paths
    | .error e => .error e

end ChordDrill.Catalog
