import Wheelhouse.Disk.Entries
import Wheelhouse.Disk.Error

/-!
What can be done with files and folders, and how it fails. Reading leaves the disk alone; every change
either succeeds or leaves the disk as it was, except that making folders and copying a folder may stop
half way.
-/

set_option autoImplicit false

namespace Wheelhouse

namespace Path

/-- The system takes no text of 4096 bytes or more for a path. -/
def isFarTooLong (p : Path) : Bool := 4096 ≤ p.text.utf8ByteSize

def hasNull (p : Path) : Bool := p.any fun name => name.toList.contains '\x00'

def namesFile (p : Path) : Bool :=
  !p.isMarked && !p.hasNull && !p.isFarTooLong && !isTooLong p.baseName

end Path

namespace Disk

/-- What a path leads to: a slash at its end leads to a folder only. -/
def at? (d : Disk) (p : Path) : Option Entry :=
  if p.isMarked then if d.isFolder p.bare then some .folder else none
  else d.find? p

def obstacle (d : Disk) (folder : Path) : List String → SystemCode
  | [] => .notFound
  | name :: rest =>
    if Path.isTooLong name then .nameTooLong
    else
      match d.find? (folder ++ [name]) with
      | some .folder => obstacle d (folder ++ [name]) rest
      | some (.file _) => if rest.isEmpty then .notFound else .notFolder
      | none => .notFound

/-- Why nothing is at a place; if nothing stands in the way, it is only missing. -/
def absence (d : Disk) (p : Path) : SystemCode :=
  if p.isFarTooLong then .nameTooLong else d.obstacle [] p

def refusal (d : Disk) (call : String) (p : Path) : DiskError :=
  if p.hasNull then .nullCharacter p.text else .system (d.absence p) call (some p.text)

def has (d : Disk) (p : Path) : Bool := (d.at? p).isSome

def readFile (d : Disk) (p : Path) : Except DiskError ByteArray :=
  match d.at? p with
  | some (.file contents) => .ok contents
  | some .folder => .error (.system .isFolder "read" none)
  | none => .error (d.refusal "open" p)

def inspect (d : Disk) (call : String) (p : Path) : Except DiskError Entry :=
  match d.at? p with
  | some e => .ok e
  | none => .error (d.refusal call p)

def list (d : Disk) (p : Path) : Except DiskError (List (String × Entry)) :=
  match d.at? p with
  | some .folder => .ok (d.children p.bare)
  | some (.file _) => .error (.system .notFolder "scandir" (some p.text))
  | none => .error (d.refusal "scandir" p)

def writeFile (d : Disk) (p : Path) (contents : ByteArray) : Except DiskError Disk :=
  if d.takes p && p.namesFile then .ok (d.put p (.file contents))
  -- A file cannot be made where the path asks for a folder.
  else if d.isFolder p || (p.isMarked && d.isFolder p.parent) then
    .error (.system .isFolder "open" (some p.text))
  else .error (d.refusal "open" p)

def appendFile (d : Disk) (p : Path) (contents : ByteArray) : Except DiskError Disk :=
  d.writeFile p ((d.file? p).getD .empty ++ contents)

/-- The folders on the way to a place and that place, the outermost first. -/
def ancestry (p : Path) : List Path :=
  (List.range p.length).map fun n => p.take (n + 1)

def addFolder (d : Disk) (p : Path) : Disk :=
  if (d.find? p).isSome then d else d.put p .folder

def remove (d : Disk) (p : Path) : Except DiskError Disk :=
  if d.absence p = .notFound && !p.hasNull then .ok (d.erase p.bare)
  else .error (d.refusal "lstat" p)

def checkCopy (d : Disk) (source target : Path) : Except DiskError Unit := do
  let from_ ← d.inspect "lstat" source
  match d.at? target with
  | none =>
    if d.absence target != .notFound || target.hasNull then throw (d.refusal "lstat" target)
  | some to_ =>
    if source.bare = target.bare then throw (.copy .samePlace source target)
    if from_.isFolder && !to_.isFolder then throw (.copy .folderOverFile source target)
    if !from_.isFolder && to_.isFolder then throw (.copy .fileOverFolder source target)
  if from_.isFolder && source.bare.isPrefixOf target.bare then
    throw (.copy .intoItself source target)
  -- Only a folder can be made where the path asks for one.
  if !from_.isFolder && target.isMarked && d.isFolder target.parent then
    throw (.system .isFolder "copyfile" (some source.text))

/-- Changes to a disk that keep what was done before an error. -/
abbrev Change (α : Type) := EStateM DiskError Disk α

/-- A change that leaves the disk alone when it fails. -/
def attempt (f : Disk → Except DiskError Disk) : Change Unit := fun d =>
  match f d with
  | .ok d' => .ok () d'
  | .error e => .error e d

def check (f : Disk → Except DiskError Unit) : Change Unit := fun d =>
  match f d with
  | .ok _ => .ok () d
  | .error e => .error e d

def ensureFolder (p : Path) : Change Unit := do
  let d ← get
  if p.hasNull then throw (.nullCharacter p.text)
  if p.isFarTooLong || d.absence p = .notFolder then throw (d.refusal "mkdir" p)
  if (d.file? p).isSome then throw (.system .taken "mkdir" (some p.text))
  let named := p.bare.takeWhile fun name => !Path.isTooLong name
  set ((ancestry named).foldl addFolder d)
  -- The folders above a name that is too long have been made.
  if named.length < p.bare.length then throw (.system .nameTooLong "mkdir" (some p.text))

def copyTree : Nat → Path → Path → Change Unit
  | 0, _, _ => pure ()
  | fuel + 1, source, target => do
    let d ← get
    match d.find? source with
    | none => pure ()
    | some (.file contents) => set (d.put target (.file contents))
    | some .folder =>
      set (d.addFolder target)
      -- The list of children is taken once, before anything is copied into a folder below.
      (d.children source).forM fun child => do
        check fun d => d.checkCopy (source ++ [child.1]) (target ++ [child.1])
        copyTree fuel (source ++ [child.1]) (target ++ [child.1])

def copy (source target : Path) : Change Unit := do
  check fun d => d.checkCopy source target
  ensureFolder target.parent
  copyTree ((← get).entries.length + 1) source.bare target.bare

/-- Goes along names as the system does: each step must start from a folder. -/
def travel (d : Disk) (p : Path) : List String → Except SystemCode Path
  | [] => .ok p
  | name :: rest =>
    match d.find? p with
    | some .folder => travel d (p.follow name) rest
    | some (.file _) => .error .notFolder
    | none => .error (d.absence p)

end Disk

end Wheelhouse
