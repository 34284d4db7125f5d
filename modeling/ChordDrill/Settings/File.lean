import ChordDrill.Folder
import ChordDrill.Settings.Record

/-!
# ChordDrill.Settings.File

Settings in files.

* `Settings.loadFrom` — the settings of a file that must exist.
* `Settings.saveTo`   — writing settings to a file.
* `Home`              — the place of the user's own settings file.
-/

namespace ChordDrill

namespace Settings

/-- Why settings cannot be loaded or saved. -/
inductive Fault where
  | file (e : FileFault)
  | malformed
  | unwritable
deriving DecidableEq, Repr

/-- The text shown to the user. -/
def Fault.message : Fault → String
  | .file e => "IO error: " ++ e.message
  | .malformed => "Parse error"
  | .unwritable => "Serialize error"

/-- The settings of a text, or the fault that it is malformed. -/
def parse (text : String) : Except Fault Settings :=
  match read? text with
  | some s => .ok s
  | none => .error .malformed

/-- The settings of the file at a path. -/
def loadFrom (f : Files) (path : String) : Except Fault Settings :=
  match f.readText path with
  | .ok text => parse text
  | .error e => .error (.file e)

/-- The text to save, or the fault that there is none. -/
def text (s : Settings) : Except Fault String :=
  match s.write? with
  | some t => .ok t
  | none => .error .unwritable

/-- Write settings to the file at a path. Settings that cannot be written leave all files as they
were. -/
def saveTo {σ : Type} (s : Settings) (disk : Disk σ) (path : String) (now : σ) :
    Except Fault Unit × σ :=
  match s.text with
  | .ok t =>
    let (result, after) := disk.write path t now
    (result.mapError .file, after)
  | .error e => (.error e, now)

end Settings

/-- The directory of the user's own settings file, and the file. -/
structure Home where
  /-- The directory exists. -/
  directory : Bool := false
  /-- The text of the file, if there is one. -/
  file : Option String := none
deriving DecidableEq, Repr

namespace Home

/-- The settings file below the directory of all configurations. -/
def path (base : String) : String := base ++ "/hotkey-trainer/config.toml"

/-- Asking for the path makes the directory. -/
def prepare (h : Home) : Home := { h with directory := true }

/-- The user's settings. Without a file they are the defaults. -/
def load (h : Home) : Except Settings.Fault Settings × Home :=
  match h.file with
  | none => (.ok {}, h.prepare)
  | some text => (Settings.parse text, h.prepare)

/-- Save the user's settings. -/
def save (h : Home) (s : Settings) : Except Settings.Fault Unit × Home :=
  match s.text with
  | .ok t => (.ok (), { h.prepare with file := some t })
  | .error e => (.error e, h.prepare)

/-- Put a text into the file; `false` without the directory. -/
def write (h : Home) (text : String) : Bool × Home :=
  if h.directory then (true, { h with file := some text }) else (false, h)

end Home

end ChordDrill
