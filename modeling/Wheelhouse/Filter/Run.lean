import Wheelhouse.Disk.Walk
import Wheelhouse.Filter.Metadata
import Wheelhouse.Filter.Plan
import Wheelhouse.Package.Specifier

set_option autoImplicit false

namespace Wheelhouse

structure FilterOptions where
  project : Option String
  dryRun : Bool

structure Validation where
  projectWheel : Option String
  checked : List String
  mismatches : List Mismatch

structure FilterResult where
  removed : List String
  kept : List String
  restored : List String
  noCustomBuild : List String
  skipped : List String
  validation : Option Validation

namespace Filter

def strings (ss : List String) : Json := .array (ss.map .string)

def count (n : Nat) : Json := .number (.ofNat n)

def scanFolder (p : Path) : Job (List Archive × List String) := do
  let filenames ← Job.look fun d => d.listFiles p
  filenames.forM fun f => do
    if !Archive.hasExtension f then
      Job.debug "아카이브가 아닌 파일 무시" [("dir", .string p.text), ("filename", .string f)]
    else if (Archive.parse? f).isNone then
      Job.warn "아카이브 파일명 파싱 실패, 건너뜀" [("dir", .string p.text), ("filename", .string f)]
  let (archives, skipped) := scan filenames
  return (archives, skipped.map fun f => (p.child f).text)

def perform (custom all : Path) (dryRun : Bool) : FilterStep → Job Unit
  | .leave name => Job.info "커스텀 빌드 없음, 필터링 생략" [("name", .string name)]
  | .keep _ => pure ()
  | .remove name filename => do
    unless dryRun do Job.remove (all.child filename)
    Job.info "외부 아카이브 제거"
      [("name", .string name), ("filename", .string filename), ("dryRun", .bool dryRun)]
  | .restore name filename => do
    unless dryRun do Job.copy (custom.child filename) (all.child filename)
    Job.info "커스텀 아카이브 복사"
      [("name", .string name), ("filename", .string filename), ("dryRun", .bool dryRun)]

def projectWheel? (archives : List Archive) (project : String) : Option Archive :=
  let wheels := archives.filter fun a => a.isWheel && a.normalizedName = PackageName.normalize project
  (Version.highest? (wheels.map (·.version))).bind fun v => wheels.find? fun a => a.version = v

def checkedNames (declared : Dependencies) (retained : List (String × List String)) : List String :=
  (retained.filter fun r => (declared.lookup r.1).isSome).map (·.1)

def mismatches (declared : Dependencies) (retained : List (String × List String)) : List Mismatch :=
  retained.filterMap fun (name, versions) =>
    match declared.lookup name with
    | none => none
    | some condition =>
      if versions.any (Specifier.isSatisfied condition) then none
      else some ⟨name, condition, Text.joined ", " versions⟩

def validate (all : Path) (archives : List Archive) (project : String)
    (retained : List (String × List String)) : Job Validation := do
  match projectWheel? archives project with
  | none =>
    Job.warn "검증할 프로젝트 wheel이 없습니다, 검증 생략"
      [("projectName", .string project), ("allDir", .string all.text)]
    return ⟨none, [], []⟩
  | some wheel =>
    match ← Job.outcome (Metadata.read (all.child wheel.filename)) with
    | .error e =>
      Job.warn "프로젝트 wheel 메타데이터를 읽을 수 없습니다, 검증 생략"
        [("projectWheel", .string wheel.filename), ("error", .string e.message)]
      return ⟨some wheel.filename, [], []⟩
    | .ok declared =>
      let checked := checkedNames declared retained
      let found := mismatches declared retained
      if found.isEmpty then
        Job.info "프로젝트 의존성 버전 검증 통과"
          [("projectWheel", .string wheel.filename), ("checked", strings checked)]
      else
        Job.warn (Failure.mismatch wheel.filename found).message
          [("mismatches", .array (found.map Failure.mismatchJson))]
      return ⟨some wheel.filename, checked, found⟩

/-- Removes the copies of wanted packages from the folder `all` for which `custom` has builds. -/
def run (custom all : Path) (names : List String) (options : FilterOptions) : Job FilterResult := do
  unless ← Job.has all do throw (.missing "전체 수집 디렉토리" all.text none)
  let (customArchives, customSkipped) ←
    if ← Job.has custom then scanFolder custom else pure ([], [])
  if customArchives.isEmpty then
    Job.warn "커스텀 빌드 디렉토리에 아카이브가 없습니다" [("customDir", .string custom.text)]
  let (allArchives, allSkipped) ← scanFolder all
  let c : Collections := { custom, all, customArchives, allArchives }
  -- No decision depends on what a step changes, so all of them can be made now.
  let steps := steps (← Job.disk) c names
  steps.forM (perform custom all options.dryRun)
  let validation ←
    match options.project with
    | some project =>
      if project = "" then pure none
      else some <$> validate all allArchives project (retained c names)
    | none => pure none
  let result : FilterResult :=
    { removed := steps.filterMap FilterStep.removed?
      kept := steps.filterMap FilterStep.kept?
      restored := steps.filterMap FilterStep.restored?
      noCustomBuild := steps.filterMap FilterStep.left?
      skipped := customSkipped ++ allSkipped
      validation }
  Job.info "중복 필터링 완료"
    [("removed", count result.removed.length), ("kept", count result.kept.length),
      ("restored", count result.restored.length), ("noCustomBuild", strings result.noCustomBuild),
      ("dryRun", .bool options.dryRun)]
  return result

end Filter

end Wheelhouse
