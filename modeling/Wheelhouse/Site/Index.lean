import Wheelhouse.Disk.Digest
import Wheelhouse.Disk.Walk
import Wheelhouse.Pin.Candidate
import Wheelhouse.Site.Html

/-!
Package indexes. The root page lists the variants, the page of a variant lists its packages, and the
page of a package lists its archives. Nothing but the archives and the labels goes into the pages, so
that the same input gives the same bytes.
-/

set_option autoImplicit false

namespace Wheelhouse

structure IndexLabels where
  projectVersion : Option String
  rocmVersion : Option String
  architectures : Option (List String)

structure IndexOptions where
  variant : String
  baseUrl : Option String
  labels : IndexLabels
  includeHashes : Bool

structure IndexedPackage where
  name : String
  files : List String
  deriving DecidableEq

structure IndexResult where
  output : Path
  variant : String
  variants : List String
  packages : List IndexedPackage
  totalFiles : Nat
  skipped : List String

namespace Index

def pageName : String := "index.html"

def label (before : String) : Option String → List String
  | some s => if s = "" then [] else [before ++ s]
  | none => []

def variantTitle (variant : String) (labels : IndexLabels) : String :=
  let architectures :=
    match labels.architectures with
    | some list => if list.isEmpty then [] else [Text.joined ", " list]
    | none => []
  let details :=
    label "version " labels.projectVersion ++ label "ROCm " labels.rocmVersion ++ architectures
  "Simple Index: " ++ variant ++
    (if details.isEmpty then "" else " (" ++ Text.joined "; " details ++ ")")

def isVariant (variant : String) : Bool :=
  variant != "" && !variant.toList.contains '/' && variant != "." && variant != ".."

def badVariant (variant : String) : Failure :=
  .configuration ("잘못된 변형 디렉토리 이름: " ++ variant) (some [("variant", .string variant)])

def gather (packages : List (String × List Archive)) (a : Archive) : List (String × List Archive) :=
  match packages with
  | [] => [(a.normalizedName, [a])]
  | (name, members) :: rest =>
    if name = a.normalizedName then (name, members ++ [a]) :: rest else (name, members) :: gather rest a

def packagePrecedes (a b : String × List Archive) : Bool := Text.precedes a.1 b.1

def archivePrecedes (a b : Archive) : Bool := Text.precedes a.filename b.filename

def packages (filenames : List String) : List (String × List Archive) :=
  let groups := ((filenames.filterMap Archive.parse?).foldl gather []).mergeSort packagePrecedes
  groups.map fun g => (g.1, g.2.mergeSort archivePrecedes)

def countArchives : List (String × List Archive) → Nat
  | [] => 0
  | g :: rest => g.2.length + countArchives rest

def unreadable (filenames : List String) : List String :=
  filenames.filter fun f => (Archive.parse? f).isNone

def withoutSlashes (s : String) : String :=
  String.ofList (s.toList.reverse.dropWhile (· == '/')).reverse

/-- The address of an archive without its digest: below the base address, or two folders up. -/
def archiveAddress (baseUrl : Option String) (filename : String) : String :=
  let encoded := Text.percentEncode filename
  let above := "../../" ++ encoded
  match baseUrl with
  | some base => if base = "" then above else withoutSlashes base ++ "/" ++ encoded
  | none => above

def archiveLink (wheels : Path) (options : IndexOptions) (a : Archive) : Job Html.Link := do
  let address := archiveAddress options.baseUrl a.filename
  if options.includeHashes then
    let digest ← Job.look fun d => d.digest (wheels.child a.filename)
    return ⟨address ++ "#sha256=" ++ digest, a.filename⟩
  else return ⟨address, a.filename⟩

def writePackage (wheels folder : Path) (options : IndexOptions) (package : String × List Archive) :
    Job IndexedPackage := do
  let links ← package.2.mapM (archiveLink wheels options)
  let packageFolder := folder.child package.1
  Job.ensureFolder packageFolder
  Job.writeText (packageFolder.child pageName) (Html.page ("Links for " ++ package.1) links)
  return ⟨package.1, package.2.map (·.filename)⟩

def variants (d : Disk) (output : Path) : Except DiskError (List String) := do
  let found := (← d.list output).filter fun child =>
    child.2.isFolder && d.has ((output.child child.1).child pageName)
  return Text.sorted (found.map (·.1))

def writeRoot (output : Path) : Job (List String) := do
  let names ← Job.look fun d => variants d output
  Job.writeText (output.child pageName) (Html.page "Simple Index" (names.map Html.folderLink))
  return names

def writeVariant (wheels output : Path) (options : IndexOptions)
    (groups : List (String × List Archive)) : Job (List IndexedPackage) := do
  let folder := output.child options.variant
  -- Pages of packages that are gone must not stay.
  Job.remove folder
  Job.ensureFolder folder
  let indexed ← groups.mapM (writePackage wheels folder options)
  Job.writeText (folder.child pageName)
    (Html.page (variantTitle options.variant options.labels)
      (groups.map fun g => Html.folderLink g.1))
  return indexed

def run (wheels output : Path) (options : IndexOptions) : Job IndexResult := do
  unless isVariant options.variant do throw (badVariant options.variant)
  unless ← Job.has wheels do throw (.missing "wheel 디렉토리" wheels.text none)
  let filenames ← Job.look fun d => d.listFiles wheels
  let skipped := unreadable filenames
  skipped.forM fun f =>
    Job.warn "아카이브 파일명 파싱 실패, 인덱스에서 제외" [("filename", .string f)]
  let groups := packages filenames
  let indexed ← writeVariant wheels output options groups
  let variants ← writeRoot output
  let totalFiles := countArchives groups
  Job.info "인덱스 생성 완료"
    [("outputDir", .string output.text), ("variant", .string options.variant),
      ("packages", .number (.ofNat groups.length)), ("totalFiles", .number (.ofNat totalFiles)),
      ("skipped", .number (.ofNat skipped.length))]
  return { output, variant := options.variant, variants, packages := indexed, totalFiles, skipped }

end Index

end Wheelhouse
