import ChordDrill.Settings
import ChordDrill.Toml.Document
import ChordDrill.Toml.Fields
import ChordDrill.Toml.Printer

/-!
# ChordDrill.Settings.Record

Settings as a text.

* `Settings.read?`  — the settings of a text; what the text does not say keeps its default.
* `Settings.write?` — the text of settings; numbers from 2^63 on cannot be written.
-/

namespace ChordDrill

open Toml

/-! ## Reading -/

/-- A number of 64 bits; a document holds none of the upper half. -/
def word64? (v : Value) : Option UInt64 := v.natural?.map UInt64.ofNat

/-- A number of 32 bits. -/
def word32? (v : Value) : Option UInt32 := (v.natural?.filter (· < 0x100000000)).map UInt32.ofNat

/-- A theme: its name, or a table with its name as the only key and an empty table or an empty array
below it. -/
def Theme.ofValue? : Value → Option Theme
  | .string s => ofName? s
  | .table _ [(s, .table _ [])] | .table _ [(s, .array _ [])] => ofName? s
  | _ => none

def DrillSettings.ofValue? (v : Value) : Option DrillSettings := do
  let f ← fields? ["session_size", "match_pause_ms", "mismatch_pause_ms", "seed"] v
  let sessionSize ← optional f "session_size" word64? 15
  let matchPause ← optional f "match_pause_ms" word64? 100
  let mismatchPause ← optional f "mismatch_pause_ms" word64? 500
  let seed ← optional f "seed" (fun v => (word64? v).map some) none
  some { sessionSize, matchPause, mismatchPause, seed }

def CatalogSettings.ofValue? (v : Value) : Option CatalogSettings := do
  let f ← fields? ["builtin", "files", "contexts"] v
  let builtin ← optional f "builtin" Value.boolean? true
  let files ← optional f "files" Value.strings? []
  let contexts ← optional f "contexts" Value.strings? []
  some { builtin, files, contexts }

def ScreenSettings.ofValue? (v : Value) : Option ScreenSettings := do
  let f ← fields? ["refresh_rate_hz", "theme"] v
  let refreshRate ← optional f "refresh_rate_hz" word32? 60
  let theme ← optional f "theme" Theme.ofValue? .dark
  some { refreshRate, theme }

def LogSettings.ofValue? (v : Value) : Option LogSettings := do
  let f ← fields? ["level", "file"] v
  let level ← optional f "level" Value.string? "info"
  let file ← optional f "file" (fun v => v.string?.map some) none
  some { level, file }

namespace Settings

/-- The settings in the root table of a document. -/
def ofTable? (t : Table) : Option Settings := do
  let f : Fields := t.get?
  let drill ← optional f "trainer" DrillSettings.ofValue? {}
  let catalog ← optional f "catalog" CatalogSettings.ofValue? {}
  let screen ← optional f "ui" ScreenSettings.ofValue? {}
  let log ← optional f "log" LogSettings.ofValue? {}
  some { drill, catalog, screen, log }

/-- The settings of a text. -/
def read? (text : String) : Option Settings := (document? text).bind ofTable?

end Settings

/-! ## Writing -/

/-- A field that is left out when it is not set. -/
def whenSet {α : Type} (name : String) (make : α → Simple) : Option α → List (String × Simple)
  | some a => [(name, make a)]
  | none => []

def DrillSettings.toSection (d : DrillSettings) : Toml.Section where
  name := "trainer"
  entries :=
    [("session_size", .natural d.sessionSize.toNat),
     ("match_pause_ms", .natural d.matchPause.toNat),
     ("mismatch_pause_ms", .natural d.mismatchPause.toNat)]
      ++ whenSet "seed" (fun n : UInt64 => .natural n.toNat) d.seed

def CatalogSettings.toSection (c : CatalogSettings) : Toml.Section where
  name := "catalog"
  entries :=
    [("builtin", .boolean c.builtin), ("files", .strings c.files),
     ("contexts", .strings c.contexts)]

def ScreenSettings.toSection (c : ScreenSettings) : Toml.Section where
  name := "ui"
  entries := [("refresh_rate_hz", .natural c.refreshRate.toNat), ("theme", .string c.theme.name)]

def LogSettings.toSection (l : LogSettings) : Toml.Section where
  name := "log"
  entries := ("level", .string l.level) :: whenSet "file" .string l.file

namespace Settings

/-- The settings as sections. -/
def sections (s : Settings) : List Toml.Section :=
  [s.drill.toSection, s.catalog.toSection, s.screen.toSection, s.log.toSection]

/-- The text of settings. -/
def write? (s : Settings) : Option String :=
  if s.sections.all Toml.Section.fits then some (render s.sections) else none

end Settings

end ChordDrill
