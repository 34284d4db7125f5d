/-!
# ChordDrill.Toml.Value

The values of a TOML document, and how its tables grow.

* `Value`        — a value; tables remember how they came about.
* `Table.pair?`  — add a key and a value below a dotted path.
* `Table.open?`  — open the table of a header, or a new element of an array of tables.
-/

namespace ChordDrill.Toml

/-- How a table came about. It decides what may still be added. -/
inductive Origin where
  /-- By its own header; the root counts as such. -/
  | header
  /-- On the way to the table of a header. -/
  | passed
  /-- On the way of a dotted key. -/
  | dotted
  /-- In braces; such a table is complete. -/
  | inline
deriving DecidableEq, Repr

/-- A value of a document. The values of floats and date-times are not kept: nothing asks for
them. -/
inductive Value where
  | string (s : String)
  | integer (n : Int)
  | float
  | boolean (b : Bool)
  | moment
  /-- An array; one made by headers may grow. -/
  | array (growing : Bool) (items : List Value)
  | table (origin : Origin) (entries : List (String × Value))
deriving Repr

/-- A table: its entries in the order of their first mention. -/
abbrev Table := List (String × Value)

namespace Table

/-- The value of a key. -/
def get? (t : Table) (k : String) : Option Value := t.lookup k

/-- The table with the value of a key replaced, or with the key added at the end. -/
def set (t : Table) (k : String) (v : Value) : Table :=
  match t with
  | [] => [(k, v)]
  | (j, w) :: t => if j = k then (j, v) :: t else (j, w) :: set t k v

/-- Change the table at a path. Missing tables on the way come about by `how`; a path of a dotted
key does not enter tables that have a header, and nothing enters a table in braces. Through an
array of tables the path leads to its last element. -/
def reach (how : Origin) (change : Origin → Table → Option Table) :
    (origin : Origin) → (path : List String) → Table → Option Table
  | origin, [], t => change origin t
  | _, k :: path, t =>
    match t.get? k with
    | none => (reach how change how path []).map fun sub => t.set k (.table how sub)
    | some (.table origin sub) =>
      if origin = .inline ∨ (how = .dotted ∧ origin = .header) then none
      else (reach how change origin path sub).map fun sub => t.set k (.table origin sub)
    | some (.array true items) =>
      match items.getLast? with
      | some (.table origin sub) =>
        (reach how change origin path sub).map fun sub =>
          t.set k (.array true (items.dropLast ++ [.table origin sub]))
      | _ => none
    | some _ => none

/-- Add a key and its value below a path of dotted keys. The table at the end of a path must have
come about by dotted keys, and the key must be new. -/
def pair? (t : Table) (path : List String) (k : String) (v : Value) : Option Table :=
  let add (origin : Origin) (t : Table) : Option Table :=
    if (origin = .dotted ↔ path ≠ []) ∧ (t.get? k).isNone then some (t ++ [(k, v)]) else none
  reach .dotted add .header path t

/-- Add all pairs of a block, in order. -/
def pairs? (t : Table) : List (List String × String × Value) → Option Table
  | [] => some t
  | (path, k, v) :: rest =>
    match t.pair? path k v with
    | some t => pairs? t rest
    | none => none

/-- Open the table `k` below a path of a header, and fill it by `body`. The table is new, or was
only passed through so far. -/
def open? (t : Table) (path : List String) (k : String) (body : Table → Option Table) :
    Option Table :=
  let fill (_ : Origin) (t : Table) : Option Table :=
    match t.get? k with
    | none => (body []).map fun sub => t.set k (.table .header sub)
    | some (.table .passed sub) => (body sub).map fun sub => t.set k (.table .header sub)
    | some _ => none
  reach .passed fill .header path t

/-- Add an element to the array of tables `k` below a path of a header, and fill it by `body`. -/
def push? (t : Table) (path : List String) (k : String) (body : Table → Option Table) :
    Option Table :=
  let fill (_ : Origin) (t : Table) : Option Table :=
    match t.get? k with
    | none => (body []).map fun sub => t.set k (.array true [.table .header sub])
    | some (.array true items) =>
      (body []).map fun sub => t.set k (.array true (items ++ [.table .header sub]))
    | some _ => none
  reach .passed fill .header path t

end Table

end ChordDrill.Toml
