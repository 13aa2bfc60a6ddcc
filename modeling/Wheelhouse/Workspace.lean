import Wheelhouse.Failure
import Wheelhouse.Text.Utf8

/-!
The world that the program acts on: a disk, objects in buckets, and a trace of everything it does to
be seen from outside, in order. A `Job` changes this world; what was done before a failure stays done.
-/

set_option autoImplicit false

namespace Wheelhouse

inductive Severity where
  | error
  | warn
  | info
  | debug
  deriving DecidableEq

structure Notice where
  severity : Severity
  text : String
  details : Members

/-- What a bucket is asked to do. A body comes with its length when it is read from a file. -/
inductive Command where
  | head (bucket key : String)
  | put (bucket key contentType : String) (length : Option Nat) (body : String)
  | fetch (bucket key : String)
  deriving DecidableEq

inductive Progress where
  | wheels (done total : Nat)
  | objects (done total : Nat) (key : String)
  deriving DecidableEq

inductive Event where
  | line (text : String)
  | complaint (text : String)
  | table (head : List String) (rows : List (List String))
  | notice (notice : Notice)
  /-- From here on the log keeps to a level; it may also go into a folder. -/
  | level (name : String) (folder : Option String)
  | attempt (key : String)
  | sent (command : Command)
  | progress (progress : Progress)

structure Workspace where
  disk : Disk
  objects : List ((String × String) × String)
  trace : List Event
  cwd : Path
  environment : List (String × String)
  /-- Milliseconds since the start of 1970. -/
  now : Int

abbrev Job (α : Type) := EStateM Failure Workspace α

namespace Job

def record (e : Event) : Job Unit := modify fun w => { w with trace := w.trace ++ [e] }

def log (severity : Severity) (text : String) (details : Members) : Job Unit :=
  record (.notice ⟨severity, text, details⟩)

def info (text : String) (details : Members) : Job Unit := log .info text details

def warn (text : String) (details : Members) : Job Unit := log .warn text details

def error (text : String) (details : Members) : Job Unit := log .error text details

def debug (text : String) (details : Members) : Job Unit := log .debug text details

def print (text : String) : Job Unit := record (.line text)

def complain (text : String) : Job Unit := record (.complaint text)

def table (head : List String) (rows : List (List String)) : Job Unit := record (.table head rows)

def disk : Job Disk := do return (← get).disk

def look {α : Type} (f : Disk → Except DiskError α) : Job α := fun w =>
  match f w.disk with
  | .ok a => .ok a w
  | .error e => .error (.disk e) w

def change (f : Disk.Change Unit) : Job Unit := fun w =>
  match f w.disk with
  | .ok _ d => .ok () { w with disk := d }
  | .error e d => .error (.disk e) { w with disk := d }

def has (p : Path) : Job Bool := do return (← disk).has p

def readFile (p : Path) : Job ByteArray := look fun d => d.readFile p

def readText (p : Path) : Job String := do return Text.decode (← readFile p)

def writeFile (p : Path) (contents : ByteArray) : Job Unit :=
  change (Disk.attempt fun d => d.writeFile p contents)

def writeText (p : Path) (text : String) : Job Unit := writeFile p (Text.encode text)

def appendText (p : Path) (text : String) : Job Unit :=
  change (Disk.attempt fun d => d.appendFile p (Text.encode text))

def ensureFolder (p : Path) : Job Unit := change (Disk.ensureFolder p)

def remove (p : Path) : Job Unit := change (Disk.attempt fun d => d.remove p)

def copy (source target : Path) : Job Unit := change (Disk.copy source target)

def outcome {α : Type} (t : Job α) : Job (Except Failure α) := fun w =>
  match t w with
  | .ok a w' => .ok (.ok a) w'
  | .error e w' => .ok (.error e) w'

def ofExcept {α : Type} (r : Except Failure α) : Job α := fun w =>
  match r with
  | .ok a => .ok a w
  | .error e => .error e w

def resolve (text : String) : Job Path := do return Path.resolve (← get).cwd text

def fromEnvironment (name : String) : Job (Option String) := do return (← get).environment.lookup name

end Job

end Wheelhouse
