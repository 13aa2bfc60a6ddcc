import Wheelhouse.Package.Archive
import Wheelhouse.Package.Version
import Wheelhouse.Pin.Mapping
import Wheelhouse.Text.Units

set_option autoImplicit false

namespace Wheelhouse

def ArchiveFault.text : ArchiveFault → String
  | .notWheel => "wheel 파일명 형식이 아닙니다"
  | .unsupported => "지원하지 않는 아카이브 형식입니다"

def ArchiveFault.failure (fault : ArchiveFault) (filename : String) : Failure :=
  .archiveName filename fault.text

structure Candidate where
  name : String
  version : String
  archive : String
  deriving DecidableEq

inductive FileClass where
  | unmapped
  | noArchive
  | unreadable (reason : String)
  | contributes (candidate : Candidate)

namespace Candidate

def normalizedName (c : Candidate) : String := PackageName.normalize c.name

def classify (mapping : Mapping) (filename : String) : FileClass :=
  match mapping.longest? filename with
  | none => .unmapped
  | some e =>
    if Archive.hasExtension filename then
      match Archive.parse filename with
      | .ok a => .contributes ⟨e.name, a.version, filename⟩
      | .error fault => .unreadable (fault.failure filename).message
    else .noArchive

def gather (groups : List (String × List Candidate)) (c : Candidate) :
    List (String × List Candidate) :=
  match groups with
  | [] => [(c.normalizedName, [c])]
  | (name, members) :: rest =>
    if name = c.normalizedName then (name, members ++ [c]) :: rest else (name, members) :: gather rest c

/-- The candidates of each package, the packages in the order of their first archives. -/
def groups (candidates : List Candidate) : List (String × List Candidate) :=
  candidates.foldl gather []

def highest (first : Candidate) (rest : List Candidate) : Candidate :=
  let all := first :: rest
  let best := (Version.highest? (all.map (·.version))).getD first.version
  (all.find? fun c => c.version = best).getD first

def chosen (group : List Candidate) : Option Candidate :=
  match group with
  | [] => none
  | first :: rest => some (highest first rest)

def namePrecedes (a b : Candidate) : Bool := Text.precedes a.name b.name

end Candidate

structure Selection where
  candidates : List Candidate
  skipped : List (String × String)
  ignored : List String
  notices : List Notice

namespace Selection

def classNotice (mapping : Mapping) (filename : String) : Option Notice :=
  match Candidate.classify mapping filename with
  | .unmapped => some ⟨.debug, "매핑되지 않은 파일 무시", [("filename", .string filename)]⟩
  | .noArchive => some ⟨.debug, "아카이브가 아닌 파일 무시", [("filename", .string filename)]⟩
  | .unreadable reason =>
    some ⟨.warn, "아카이브 파일명 파싱 실패, 건너뜀",
      [("filename", .string filename), ("reason", .string reason)]⟩
  | .contributes _ => none

def strings (ss : List String) : Json := .array (ss.map .string)

/-- Several versions of one package are worth a warning. -/
def choiceNotice (group : String × List Candidate) : Option Notice :=
  match Candidate.chosen group.2 with
  | none => none
  | some c =>
    let versions := group.2.map (·.version)
    if versions.all (· = c.version) then none
    else
      some ⟨.warn, "같은 패키지의 여러 버전 발견, 가장 높은 버전 사용",
        [("name", .string group.1), ("versions", strings versions), ("chosen", .string c.version)]⟩

def contribution? (mapping : Mapping) (filename : String) : Option Candidate :=
  match Candidate.classify mapping filename with
  | .contributes c => some c
  | _ => none

def skip? (mapping : Mapping) (filename : String) : Option (String × String) :=
  match Candidate.classify mapping filename with
  | .unreadable reason => some (filename, reason)
  | _ => none

def isIgnored (mapping : Mapping) (filename : String) : Bool :=
  match Candidate.classify mapping filename with
  | .unmapped | .noArchive => true
  | _ => false

def ofFiles (mapping : Mapping) (filenames : List String) : Selection :=
  let groups := Candidate.groups (filenames.filterMap (contribution? mapping))
  { candidates := (groups.filterMap fun g => Candidate.chosen g.2).mergeSort Candidate.namePrecedes
    skipped := filenames.filterMap (skip? mapping)
    ignored := filenames.filter (isIgnored mapping)
    notices := filenames.filterMap (classNotice mapping) ++ groups.filterMap choiceNotice }

end Selection

end Wheelhouse
