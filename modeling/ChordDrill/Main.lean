import ChordDrill.Startup

/-!
# ChordDrill.Main

The start of the trainer on a real system: the user's settings, the log file and the catalog. The
first fault is reported and ends the program.
-/

namespace ChordDrill

/-- The fault behind an error of the system. -/
def faultOf : IO.Error → FileFault
  | .noFileOrDirectory .. => .notFound
  | .inappropriateType .. => .isDirectory
  | e => .other (toString e)

/-- The text of a file of the system. -/
def readFile (path : String) : IO (Except FileFault String) := do
  try
    return decodeText (← IO.FS.readBinFile path)
  catch e =>
    return .error (faultOf e)

/-- Open a file of the system for appending. -/
def openFile (path : String) : IO (Except FileFault Unit) := do
  try
    let _ ← IO.FS.Handle.mk path .append
    return .ok ()
  catch e =>
    return .error (faultOf e)

/-- The directory of all configurations, if the system names one. -/
def configurations : IO (Option String) := do
  match ← IO.getEnv "XDG_CONFIG_HOME" with
  | some base => return some base
  | none => return (← IO.getEnv "HOME").map (· ++ "/.config")

/-- The answers of the system for some paths to read and one to open. -/
def systemFiles (paths : List String) (log : Option String) : IO Files := do
  let texts ← paths.mapM fun path => do return (path, ← readFile path)
  let opened ← log.mapM openFile
  return {
    readText := fun path => (texts.lookup path).getD (.error .notFound)
    openLog := fun _ => opened.getD (.ok ()) }

/-- Report the fault that ends the start. -/
def report (e : Startup.Fault) : IO UInt32 := do
  IO.eprintln ("Error: " ++ e.message)
  return 1

/-- Start with the text of the user's settings. -/
def start (home : Home) : IO UInt32 := do
  match Startup.settings home with
  | .error e => report e
  | .ok settings =>
    let files ← systemFiles settings.catalog.files settings.log.file
    match Startup.run home files with
    | .error e => report e
    | .ok _ => return 0

end ChordDrill

open ChordDrill in
def main : IO UInt32 := do
  match ← configurations with
  | none =>
    IO.eprintln "Error: Failed to load config"
    return 1
  | some base =>
    IO.FS.createDirAll (base ++ "/hotkey-trainer")
    match ← readFile (Home.path base) with
    | .ok text => start { directory := true, file := some text }
    | .error .notFound => start { directory := true }
    | .error e => report (.settings (.file e))
