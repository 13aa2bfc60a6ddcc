import Wheelhouse.Calendar
import Wheelhouse.Disk.Walk
import Wheelhouse.Workspace

set_option autoImplicit false

namespace Wheelhouse

structure OrganizeOptions where
  /-- In bytes. -/
  sizeLimit : Number
  moment : Option Int
  showsProgress : Bool

structure OrganizedWheel where
  filename : String
  size : Nat
  deriving DecidableEq

structure OrganizeFolders where
  packages : Path
  large : Path
  small : Path

structure OrganizeResult where
  totalWheels : Nat
  large : List OrganizedWheel
  small : List OrganizedWheel
  largeTotalSize : Nat
  smallTotalSize : Nat
  failed : List String
  releaseTag : String
  folders : OrganizeFolders

structure Sorting where
  large : List OrganizedWheel
  small : List OrganizedWheel
  failed : List String

namespace Organize

def defaultSizeLimit : Nat := 100 * 1024 * 1024

def missingFolder (artifacts : Path) : Failure :=
  .missing "아티팩트 디렉토리" artifacts.bare.text none

def notFolder (artifacts : Path) : Failure :=
  .missing "아티팩트 디렉토리" artifacts.bare.text (some ("디렉토리가 아닙니다: " ++ artifacts.bare.text))

def noWheels (artifacts : Path) : Failure :=
  .missing "wheel" artifacts.bare.text (some ("wheel을 찾을 수 없습니다: " ++ artifacts.bare.text))

def folders (output : Path) : OrganizeFolders :=
  ⟨output.child "packages", output.child "packages-large", output.child "packages-small"⟩

def place (f : OrganizeFolders) (limit : Number) (wheel : Path) : Job (Bool × OrganizedWheel) := do
  let size ← Job.look fun d => do
    match ← d.inspect "stat" wheel with
    | .file contents => return contents.size
    | .folder => return 0
  let filename := wheel.baseName
  if (Number.ofNat size).exceeds limit then
    Job.copy wheel (f.large.child filename)
    return (true, ⟨filename, size⟩)
  else
    -- If only the second copy fails, the first one stays and the wheel still counts as failed.
    Job.copy wheel (f.small.child filename)
    Job.copy wheel (f.packages.child filename)
    return (false, ⟨filename, size⟩)

def sortOne (f : OrganizeFolders) (limit : Number) (s : Sorting) (wheel : Path) : Job Sorting := do
  match ← Job.outcome (place f limit wheel) with
  | .ok (true, w) => return { s with large := s.large ++ [w] }
  | .ok (false, w) => return { s with small := s.small ++ [w] }
  | .error e =>
    Job.warn "wheel 처리 실패, 건너뜀"
      [("filename", .string wheel.baseName), ("error", .string e.message)]
    return { s with failed := s.failed ++ [wheel.baseName] }

/-- Deals with wheels, of which `done` of `total` have been dealt with. -/
def sortAll (f : OrganizeFolders) (options : OrganizeOptions) (total : Nat) :
    Nat → Sorting → List Path → Job Sorting
  | _, s, [] => return s
  | done, s, wheel :: rest => do
    let s' ← sortOne f options.sizeLimit s wheel
    if options.showsProgress then Job.record (.progress (.wheels (done + 1) total))
    sortAll f options total (done + 1) s' rest

def totalSize : List OrganizedWheel → Nat
  | [] => 0
  | w :: rest => w.size + totalSize rest

def find (artifacts : Path) : Job (List Path) := do
  match (← Job.disk).at? artifacts with
  | none => throw (missingFolder artifacts)
  | some (.file _) => throw (notFolder artifacts)
  | some .folder => pure ()
  let wheels ← Job.look fun d => d.findWheels artifacts
  if wheels.isEmpty then throw (noWheels artifacts)
  return wheels

def run (artifacts output : Path) (options : OrganizeOptions) : Job OrganizeResult := do
  let wheels ← find artifacts
  let f := folders output
  Job.ensureFolder f.packages
  Job.ensureFolder f.large
  Job.ensureFolder f.small
  let s ← sortAll f options wheels.length 0 ⟨[], [], []⟩ wheels
  let large := s.large.mergeSort fun a b => b.size ≤ a.size
  let releaseTag := Calendar.releaseTag options.moment
  Job.info "wheel 분류 완료"
    [("total", .number (.ofNat wheels.length)), ("large", .number (.ofNat large.length)),
      ("small", .number (.ofNat s.small.length)), ("failed", .number (.ofNat s.failed.length)),
      ("releaseTag", .string releaseTag)]
  return {
      totalWheels := wheels.length
      large
      small := s.small
      largeTotalSize := totalSize large
      smallTotalSize := totalSize s.small
      failed := s.failed
      releaseTag
      folders := f }

end Organize

end Wheelhouse
