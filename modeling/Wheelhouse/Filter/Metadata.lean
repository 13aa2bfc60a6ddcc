import Wheelhouse.Package.Requirement
import Wheelhouse.Workspace
import Wheelhouse.Zip.Archive

set_option autoImplicit false

namespace Wheelhouse

abbrev Dependencies := List (String × String)

namespace Metadata

def ending : List Char := ".dist-info/METADATA".toList

def isMetadata (name : String) : Bool :=
  match Text.dropEnding? ending name.toList with
  | some folder => !folder.isEmpty && !folder.contains '/'
  | none => false

def withoutReturn (line : List Char) : List Char :=
  if line.getLast? = some '\r' then line.dropLast else line

/-- The lines of a text; each but the last may end in a carriage return. -/
def lines (text : String) : List (List Char) :=
  match (Text.split (· == '\n') text.toList).reverse with
  | [] => []
  | last :: before => (last :: before.map withoutReturn).reverse

def headers (text : String) : List (List Char) := (lines text).takeWhile fun l => !l.isEmpty

def dropField? : List Char → List Char → Option (List Char)
  | [], cs => some cs
  | _ :: _, [] => none
  | w :: ws, c :: cs => if c.toLower = w then dropField? ws cs else none

def declared? (line : List Char) : Option Requirement :=
  match dropField? "requires-dist:".toList line with
  | none => none
  | some rest =>
    let value := rest.dropWhile Text.isBlank
    -- A value lies on one line, whatever counts as a blank before it.
    if value.isEmpty || value.any Text.isLineEnd then none else Requirement.parse? (String.ofList value)

def isWordChar (c : Char) : Bool := c.isAlphanum || c == '_'

def startsExtra (cs : List Char) : Bool :=
  match Text.dropBeginning? "extra".toList cs with
  | some rest => "==".toList.isPrefixOf (rest.dropWhile Text.isBlank)
  | none => false

/-- Whether a marker asks for an extra; `inWord` tells whether a word goes on. -/
def asksForExtra (inWord : Bool) : List Char → Bool
  | [] => false
  | c :: cs => (!inWord && startsExtra (c :: cs)) || asksForExtra (isWordChar c) cs

def counts (r : Requirement) : Bool :=
  match r.marker with
  | some marker => !asksForExtra false marker.toList
  | none => true

def withoutParentheses (s : String) : String :=
  String.ofList (s.toList.filter fun c => !(c == '(' || c == ')'))

def declare (name condition : String) : Dependencies → Dependencies
  | [] => [(name, condition)]
  | (other, old) :: rest =>
    if other = name then (name, condition) :: rest else (other, old) :: declare name condition rest

def addLine (found : Dependencies) (line : List Char) : Dependencies :=
  match declared? line with
  | some r => if counts r then declare r.normalizedName (withoutParentheses r.specifier) found else found
  | none => found

/-- The dependencies that a metadata text declares. A later line replaces an earlier one of its name. -/
def dependencies (text : String) : Dependencies := (headers text).foldl addLine []

def noMetadata (wheel : Path) : Failure := .other ("METADATA가 없습니다: " ++ wheel.baseName)

def find (wheel : Path) (bytes : ByteArray) : Except Failure String := do
  let entries ← (Zip.entries bytes).mapError .archive
  match entries.find? fun e => isMetadata e.name with
  | none => throw (noMetadata wheel)
  | some e => return Text.decode (← (e.contents bytes).mapError .archive)

def read (wheel : Path) : Job Dependencies := do
  unless ← Job.has wheel do throw (.archive .absent)
  return dependencies (← Job.ofExcept (find wheel (← Job.readFile wheel)))

end Metadata

end Wheelhouse
