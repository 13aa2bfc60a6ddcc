import Wheelhouse.Package.Requirement
import Wheelhouse.Pin.Candidate

/-!
Requirement files with pinned versions. For each candidate the lines that ask for its package are
commented out, except a first one that already asks for exactly its version, and a new line is put at
the start if there is no such line. All other lines stay as they are.
-/

set_option autoImplicit false

namespace Wheelhouse

structure Pinned where
  candidate : Candidate
  replaced : List String
  alreadyPinned : Bool

def Pinned.line (p : Pinned) : String := Requirement.pin p.candidate.name p.candidate.version

namespace RequirementFile

def mark : String := "# replaced by pin: "

inductive LineClass where
  | unrelated
  | exact
  | other
  deriving DecidableEq

def lineClass (c : Candidate) (line : String) : LineClass :=
  match Requirement.parse? line with
  | none => .unrelated
  | some r =>
    if r.normalizedName = c.normalizedName then
      if r.specifier = "==" ++ c.version && r.extras.isNone && r.marker.isNone then .exact else .other
    else .unrelated

/-- The lines with those of a candidate's package commented out, the lines that were, and whether a
line that pins the version was kept; `pinned` says that one has been kept before. -/
def markLines (c : Candidate) : Bool → List String → List String × List String × Bool
  | pinned, [] => ([], [], pinned)
  | pinned, line :: rest =>
    match lineClass c line, pinned with
    | .unrelated, _ =>
      let (lines, replaced, kept) := markLines c pinned rest
      (line :: lines, replaced, kept)
    | .exact, false =>
      let (lines, replaced, kept) := markLines c true rest
      (line :: lines, replaced, kept)
    | _, _ =>
      let (lines, replaced, kept) := markLines c pinned rest
      ((mark ++ line) :: lines, line :: replaced, kept)

def markAll : List Candidate → List String → List String × List Pinned
  | [], lines => (lines, [])
  | c :: rest, lines =>
    let (marked, replaced, kept) := markLines c false lines
    let (final, pinned) := markAll rest marked
    (final, ⟨c, replaced, kept⟩ :: pinned)

def endsLine (text : String) : Bool := text.toList.getLast? = some '\n'

/-- The lines of a text. A line end at the end of the text starts no further line. -/
def linesOf (text : String) : List String :=
  if text = "" then []
  else
    let all := Text.fields (· == '\n') text
    if endsLine text then all.dropLast else all

def textOf (lines : List String) (ended : Bool) : String :=
  Text.joined "\n" lines ++ (if ended then "\n" else "")

def pin (text : String) (candidates : List Candidate) : String × List Pinned :=
  let (lines, pinned) := markAll candidates (linesOf text)
  let added := (pinned.filter fun p => !p.alreadyPinned).map Pinned.line
  -- A text in which nothing changes is kept as it is, whatever its line ends.
  if added.isEmpty && pinned.all (fun p => p.replaced.isEmpty) then (text, pinned)
  else (textOf (added ++ lines) (text = "" || endsLine text), pinned)

def notice? (p : Pinned) : Option Notice :=
  if p.replaced.isEmpty then none
  else
    some ⟨.info, "기존 조건 대체", [("pin", .string p.line), ("replaced", Selection.strings p.replaced)]⟩

end RequirementFile

end Wheelhouse
