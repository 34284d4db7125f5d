import ChordDrill.Device.Listener
import ChordDrill.Folder
import ChordDrill.Text.Blank
import ChordDrill.Text.CaseMap
import ChordDrill.Text.Digit

/-!
# ChordDrill.Device.Discovery

Which input devices are keyboards, and which of them can be opened.

* `Node`         — an entry of the input directory with what the system tells about it.
* `Listing`      — what listing the input directory gives.
* `keyboards`    — the nodes that pass the keyboard test.
* `openAll`      — open every keyboard that permits it.
* `listener`     — a listener to the nodes that opened.
* `status`       — the availability report.
* `sourceName`   — the name of this source of motions.
-/

namespace ChordDrill.Device

/-- How opening a node turns out. -/
inductive Opening where
  | ready
  /-- It opens, and every read fails. -/
  | unreadable
  | denied
  /-- It does not open for another reason. -/
  | failed (e : FileFault)
deriving DecidableEq, Repr

/-- An entry of the input directory. -/
structure Node where
  name : String
  opening : Opening := .ready
  /-- The file of capability words. -/
  capabilities : Option Content := none
  /-- The file with the name of the device. -/
  label : Option Content := none
deriving DecidableEq, Repr

/-- What listing the input directory gives. -/
inductive Listing where
  | missing
  /-- It is there, and cannot be listed. -/
  | failed (e : FileFault)
  /-- Its nodes, in the order of the directory. -/
  | listed (nodes : List Node)
deriving DecidableEq, Repr

/-- Why no keyboard listens. -/
inductive Fault where
  | noInputDirectory
  | noDevices
  | permissionDenied
  /-- A keyboard does not open for another reason, or the directory cannot be listed. -/
  | unopenable (e : FileFault)
deriving DecidableEq, Repr

/-- The text shown to the user. -/
def Fault.message : Fault → String
  | .noInputDirectory => "Device enumeration failed: /dev/input does not exist"
  | .noDevices => "No keyboard devices found"
  | .permissionDenied =>
    "Permission denied accessing any keyboard device; " ++
      "run with sudo or add user to the 'input' group"
  | .unopenable e => "IO error: " ++ e.message

/-- The value of a word of hexadecimal digits with an optional plus, if it fits 64 bits. -/
def capabilityWord? (word : List Char) : Option Nat :=
  let digits :=
    match word with
    | '+' :: rest => rest
    | _ => word
  (Text.number? 16 digits).filter (· < 0x10000000000000000)

/-- The number of bits set in a 64-bit word. -/
def bitCount (n : Nat) : Nat := (List.range 64).countP fun i => n.testBit i

/-- The number of capabilities in a file of capability words. There is no bound on it here; a
counter of 32 bits holds it for any file of less than a gigabyte. -/
def capabilityCount (cs : List Char) : Nat :=
  ((Text.words cs).filterMap capabilityWord?).foldr (fun word n => bitCount word + n) 0

/-- Whether a text occurs in another. -/
def occurs (part : List Char) : List Char → Bool
  | [] => part.isEmpty
  | c :: cs => part.isPrefixOf (c :: cs) || occurs part cs

/-- A file that may be missing or unreadable. -/
def readable? (c : Option Content) : Option String := c.bind fun c => c.read.toOption

/-- A keyboard has more than fifty capabilities; where these cannot be read, its name says so. -/
def Node.isKeyboard (n : Node) : Bool :=
  match readable? n.capabilities with
  | some caps => capabilityCount caps.toList > 50
  | none =>
    match readable? n.label with
    | some label =>
      let l := Text.lower label.toList
      occurs "keyboard".toList l || occurs "kbd".toList l
    | none => false

/-- The event nodes that are keyboards, in directory order. -/
def keyboards : Listing → Except Fault (List Node)
  | .missing => .error .noInputDirectory
  | .failed e => .error (.unopenable e)
  | .listed nodes =>
    match nodes.filter fun n => n.name.startsWith "event" && n.isKeyboard with
    | [] => .error .noDevices
    | found => .ok found

/-- The keyboards among `ns` that open. Those that deny permission are passed over; the first one
that fails otherwise ends it. -/
def openEach : List Node → Except Fault (List Node)
  | [] => .ok []
  | n :: ns =>
    match n.opening with
    | .denied => openEach ns
    | .failed e => .error (.unopenable e)
    | .ready | .unreadable =>
      match openEach ns with
      | .ok opened => .ok (n :: opened)
      | .error e => .error e

/-- Open every keyboard that permits it. -/
def openAll (l : Listing) : Except Fault (List Node) :=
  match keyboards l with
  | .error e => .error e
  | .ok found =>
    match openEach found with
    | .ok [] => .error .permissionDenied
    | result => result

/-- A listener to opened nodes. Nothing can be read from an unreadable one. -/
def listener (opened : List Node) : Listener :=
  .opened (opened.map fun n => some (if n.opening = .ready then .wouldBlock else .failed))

/-- The name of this source of motions. -/
def sourceName : String := "evdev"

/-- The report of so many keyboards. -/
def countReport (count : Nat) : String := toString count ++ " keyboard device(s) found"

/-- The report of a fault. -/
def faultReport : Fault → String
  | .noDevices => "No keyboard devices found"
  | .permissionDenied => "Permission denied - run with sudo or add user to 'input' group"
  | e => "Error: " ++ e.message

/-- The availability report, for which no node is opened. -/
def status (l : Listing) : String :=
  match keyboards l with
  | .ok found => countReport found.length
  | .error e => faultReport e

/-- What opened nodes hand over when `written` waits in the node of that name: an unreadable node
hands over nothing. -/
def waiting (opened : List Node) (written : String → List UInt8) : List (List UInt8) :=
  opened.map fun n => if n.opening = .ready then written n.name else []

end ChordDrill.Device
