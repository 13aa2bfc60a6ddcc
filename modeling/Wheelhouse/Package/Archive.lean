import Wheelhouse.Package.Name
import Wheelhouse.Text.Fields

set_option autoImplicit false

namespace Wheelhouse

structure WheelTags where
  python : String
  abi : String
  platform : String
  deriving DecidableEq

inductive ArchiveKind where
  | wheel (build : Option String) (tags : WheelTags)
  | sdist
  deriving DecidableEq

structure Archive where
  filename : String
  /-- The name as it is spelled in the file name. -/
  name : String
  version : String
  kind : ArchiveKind
  deriving DecidableEq

inductive ArchiveFault where
  | notWheel
  | unsupported
  deriving DecidableEq

namespace Archive

def normalizedName (a : Archive) : String := PackageName.normalize a.name

def isWheel (a : Archive) : Bool :=
  match a.kind with
  | .wheel _ _ => true
  | .sdist => false

def isVersionChar (c : Char) : Bool :=
  c.isAlphanum || c == '_' || c == '.' || c == '!' || c == '+'

def isVersion (cs : List Char) : Bool := !cs.isEmpty && cs.all isVersionChar

def startsWithDigit (cs : List Char) : Bool :=
  match cs with
  | c :: _ => c.isDigit
  | [] => false

def wheelEnding : List Char := ".whl".toList

def sdistEndings : List (List Char) :=
  [".tar.gz".toList, ".zip".toList, ".tar.bz2".toList, ".tar.xz".toList]

/-- A wheel from its fields; the one in the middle of six is the build tag. -/
def ofFields (filename : String) (fields : List (List Char)) : Option Archive :=
  match fields with
  | [name, version, python, abi, platform] =>
    make name version none python abi platform
  | [name, version, build, python, abi, platform] =>
    if startsWithDigit build then make name version (some build) python abi platform else none
  | _ => none
where
  make (name version : List Char) (build : Option (List Char)) (python abi platform : List Char) :
      Option Archive :=
    if PackageName.isSpelling PackageName.isWheelNameChar name && isVersion version &&
        !python.isEmpty && !abi.isEmpty && !platform.isEmpty then
      some
        { filename
          name := String.ofList name
          version := String.ofList version
          kind := .wheel (build.map String.ofList)
            ⟨String.ofList python, String.ofList abi, String.ofList platform⟩ }
    else none

def ofStem (filename : String) (stem : List Char) : Option Archive :=
  match Text.cutLast '-' stem with
  | none => none
  | some (name, version) =>
    if PackageName.isSpelling PackageName.isNameChar name && startsWithDigit version &&
        isVersion version then
      some { filename, name := String.ofList name, version := String.ofList version, kind := .sdist }
    else none

def parse (filename : String) : Except ArchiveFault Archive :=
  match Text.dropEnding? wheelEnding filename.toList with
  | some stem =>
    match ofFields filename (Text.split (· == '-') stem) with
    | some a => .ok a
    | none => .error .notWheel
  | none =>
    match (sdistEndings.findSome? fun e => Text.dropEnding? e filename.toList).bind (ofStem filename) with
    | some a => .ok a
    | none => .error .unsupported

def parse? (filename : String) : Option Archive := (parse filename).toOption

def hasExtension (filename : String) : Bool :=
  (wheelEnding :: sdistEndings).any fun e => e.isSuffixOf (Text.lower filename.toList)

end Archive

end Wheelhouse
