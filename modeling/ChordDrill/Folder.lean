import ChordDrill.Text.Parts

/-!
# ChordDrill.Folder

Files as data: a working directory with its files and directories, and what reading or opening
one of them gives. Above the working directory there are directories without other entries, and
at the root stand the directories of a system.

* `Content`          — a text, raw bytes, or a directory.
* `Folder.find`      — what a path leads to.
* `Folder.readText`  — the text of a file, or why it cannot be read.
* `Folder.put`       — the folder after a file was written.
* `Folder.openLog`   — whether a file can be opened for appending.
* `Files`            — the answers of any file system, and `Folder.files` for those of a folder.
* `Disk`             — a file system that can be written to, and `Folder.disk` for a folder.
* `extension?`       — what follows the last dot of a file name.
-/

namespace ChordDrill

/-- What stands under a name. -/
inductive Content where
  | text (s : String)
  | bytes (b : List UInt8)
  | directory
deriving DecidableEq, Repr

/-- Why a file cannot be read or opened. -/
inductive FileFault where
  | notFound
  | isDirectory
  | notDirectory
  | notText
  | nameTooLong
  | nulInName
  /-- Anything else, in the words of the system. -/
  | other (text : String)
deriving DecidableEq, Repr

/-- The text shown to the user. -/
def FileFault.message : FileFault → String
  | .notFound => "No such file or directory (os error 2)"
  | .isDirectory => "Is a directory (os error 21)"
  | .notDirectory => "Not a directory (os error 20)"
  | .notText => "stream did not contain valid UTF-8"
  | .nameTooLong => "File name too long (os error 36)"
  | .nulInName => "file name contained an unexpected NUL byte"
  | .other text => text

/-- The text of bytes, if they are UTF-8. -/
def decodeText (b : ByteArray) : Except FileFault String :=
  match String.fromUTF8? b with
  | some s => .ok s
  | none => .error .notText

/-- The text of a file. -/
def Content.read : Content → Except FileFault String
  | .text s => .ok s
  | .bytes b => decodeText ⟨b.toArray⟩
  | .directory => .error .isDirectory

/-- A working directory: its entries by name. -/
structure Folder where
  entries : List (String × Content) := []
deriving DecidableEq, Repr

namespace Folder

/-- Put a content under a name. -/
def put (f : Folder) (name : String) (c : Content) : Folder :=
  ⟨(name, c) :: f.entries.filter fun e => e.1 ≠ name⟩

/-! ## Paths -/

/-- Where one can be on the way along a path. -/
inductive Directory where
  | working
  /-- A directory in the working directory; it is empty. -/
  | inner
  /-- A directory above the working directory. -/
  | outer
  | root
  /-- A directory of the system at the root. -/
  | system (name : String)
deriving DecidableEq, Repr

/-- The directory that contains a directory. -/
def Directory.parent : Directory → Directory
  | .working | .outer => .outer
  | .inner => .working
  | .root | .system _ => .root

/-- The directories at the root. -/
def systemNames : List String :=
  ["bin", "boot", "dev", "etc", "home", "lib", "lib64", "media", "mnt", "opt", "proc", "root",
   "run", "sbin", "srv", "sys", "tmp", "usr", "var"]

/-- What a path leads to. -/
inductive Place where
  | directory (d : Directory)
  | file (content : Content)
  /-- Nothing stands there, and a file could be made there. -/
  | vacant
  | fault (e : FileFault)
deriving DecidableEq, Repr

/-- The most bytes that a name may have. -/
def nameLimit : Nat := 255

/-- The least number of bytes that is too much for a path. -/
def pathLimit : Nat := 4096

/-- What stands under a name in a directory. The only file of the system is the empty device. -/
def lookIn (f : Folder) : Directory → String → Place
  | .working, name =>
    match f.entries.lookup name with
    | none => .vacant
    | some .directory => .directory .inner
    | some c => .file c
  | .root, name => if name ∈ systemNames then .directory (.system name) else .vacant
  | .system "dev", "null" => .file (.text "")
  | _, _ => .vacant

/-- Follow the parts of a path from a directory on. -/
def follow (f : Folder) (d : Directory) : List String → Place
  | [] => .directory d
  | part :: parts =>
    if part = "" ∨ part = "." then f.follow d parts
    else if part = ".." then f.follow d.parent parts
    else if nameLimit < part.utf8ByteSize then .fault .nameTooLong
    else
      match f.lookIn d part with
      | .directory d => f.follow d parts
      | .file c => if parts = [] then .file c else .fault .notDirectory
      | .vacant => if parts = [] then .vacant else .fault .notFound
      | .fault e => .fault e

/-- Why a path leads nowhere, whatever files there are. -/
def pathFault? (path : String) : Option FileFault :=
  if path.toList.contains '\x00' then some .nulInName
  else if path = "" then some .notFound
  else if pathLimit ≤ path.utf8ByteSize then some .nameTooLong
  else none

/-- Where a path starts. -/
def startOf (path : String) : Directory := if path.startsWith "/" then .root else .working

/-- What a path leads to. -/
def find (f : Folder) (path : String) : Place :=
  match pathFault? path with
  | some e => .fault e
  | none => f.follow (startOf path) (Text.parts '/' path)

/-! ## Reading and opening -/

/-- The text of the file at a path. -/
def readText (f : Folder) (path : String) : Except FileFault String :=
  match f.find path with
  | .file c => c.read
  | .directory _ => .error .isDirectory
  | .vacant => .error .notFound
  | .fault e => .error e

/-- Whether the file at a path can be opened for appending; a missing one is made. No file can be
made under a name with a slash at its end, and none is looked for. -/
def openLog (f : Folder) (path : String) : Except FileFault Unit :=
  match pathFault? path with
  | some e => .error e
  | none =>
    let parts := Text.parts '/' path
    let slash := path.endsWith "/"
    let way := if slash then (parts.filter (· ≠ "")).dropLast else parts
    match f.follow (startOf path) way with
    | .fault e => .error e
    | .directory _ => .error .isDirectory
    | .file _ => if slash then .error .notDirectory else .ok ()
    | .vacant => if slash then .error .notFound else .ok ()

end Folder

/-- The answers of a file system. -/
structure Files where
  /-- The text of the file at a path. -/
  readText : String → Except FileFault String
  /-- Whether the file at a path can be opened for appending. -/
  openLog : String → Except FileFault Unit

/-- The answers of a folder. -/
def Folder.files (f : Folder) : Files := { readText := f.readText, openLog := f.openLog }

/-! ## Writing -/

/-- A file system that can be written to, with its states. -/
structure Disk (σ : Type) where
  /-- What it answers in a state. -/
  files : σ → Files
  /-- Make a text the content of the file at a path. A write that fails may change the state too. -/
  write : (path text : String) → σ → Except FileFault Unit × σ

/-- Make a text the content of the file at a path; a missing file is made. Only what is written in
the working directory is kept. -/
def Folder.write (path text : String) (f : Folder) : Except FileFault Unit × Folder :=
  match f.openLog path with
  | .error e => (.error e, f)
  | .ok () =>
    let parts := Text.parts '/' path
    match f.follow (startOf path) parts.dropLast, parts.getLast? with
    | .directory .working, some name => (.ok (), f.put name (.text text))
    | _, _ => (.ok (), f)

/-- A folder that is written to. -/
def Folder.disk : Disk Folder := { files := Folder.files, write := Folder.write }

/-! ## Names -/

/-- What follows the last dot of the last part of a path; a name whose only dot is its first
character has no extension. -/
def extension? (path : String) : Option String :=
  match ((Text.parts '/' path).filter fun part => part ≠ "" ∧ part ≠ ".").getLast? with
  | none | some ".." => none
  | some file =>
    match (Text.parts '.' file).reverse with
    | [] | [_] => none
    | [_, ""] => none
    | ext :: _ => some ext

end ChordDrill
