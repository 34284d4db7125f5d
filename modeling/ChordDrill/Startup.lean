import ChordDrill.Catalog.Builtin
import ChordDrill.Catalog.File
import ChordDrill.Settings.File

/-!
# ChordDrill.Startup

What happens before the first picture: settings, log file, catalog. The first fault ends it.

* `Startup.catalog` — the catalog that the settings ask for.
* `Startup.run`     — all steps in order.
-/

namespace ChordDrill.Startup

/-- Why the trainer does not start. -/
inductive Fault where
  | settings (e : Settings.Fault)
  | log (path : String) (e : FileFault)
  | builtin (e : Combo.Fault)
  | catalog (e : Catalog.Fault)
  | noShortcuts
deriving DecidableEq, Repr

/-- The text shown to the user. -/
def Fault.message : Fault → String
  | .settings _ => "Failed to load config"
  | .log path _ => "Failed to open log file " ++ path
  | .builtin _ => "Built-in catalog is malformed"
  | .catalog e => e.message
  | .noShortcuts => "No shortcuts to drill; check the [catalog] section of the config"

/-- The built-in shortcuts if they are wanted. -/
def base (builtin : Bool) : Except Fault Catalog :=
  if builtin then
    match Catalog.builtin with
    | .ok c => .ok c
    | .error e => .error (.builtin e)
  else .ok {}

/-- The catalog that the settings ask for: the built-in shortcuts, then those of the files in
order, cut down to the contexts. It must not be empty. -/
def catalog (s : CatalogSettings) (f : Files) : Except Fault Catalog :=
  match base s.builtin with
  | .error e => .error e
  | .ok start =>
    match Catalog.loadAll f start s.files with
    | .error e => .error (.catalog e)
    | .ok c =>
      let kept := c.retain s.contexts
      if kept.actions = [] then .error .noShortcuts else .ok kept

/-- The user's settings. -/
def settings (h : Home) : Except Fault Settings :=
  match h.load.1 with
  | .ok s => .ok s
  | .error e => .error (.settings e)

/-- Open the log file if there is one. -/
def openLog (s : LogSettings) (f : Files) : Except Fault Unit :=
  match s.file with
  | none => .ok ()
  | some path =>
    match f.openLog path with
    | .ok () => .ok ()
    | .error e => .error (.log path e)

/-- Settings, log file and catalog, in this order. -/
def run (h : Home) (f : Files) : Except Fault (Settings × Catalog) :=
  match settings h with
  | .error e => .error e
  | .ok s =>
    match openLog s.log f with
    | .error e => .error e
    | .ok () =>
      match catalog s.catalog f with
      | .error e => .error e
      | .ok c => .ok (s, c)

end ChordDrill.Startup
