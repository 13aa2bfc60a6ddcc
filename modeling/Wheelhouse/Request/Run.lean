import Wheelhouse.ByteSize
import Wheelhouse.Cache.Entry
import Wheelhouse.Filter.Run
import Wheelhouse.Organize.Run
import Wheelhouse.Pin.Run
import Wheelhouse.Publish.Run
import Wheelhouse.Request.Basic
import Wheelhouse.Request.Report

set_option autoImplicit false

namespace Wheelhouse.Request

def count (n : Nat) : String := toString n ++ "개"

def showLines (lines : List String) : Job Unit := lines.forM Job.print

def cacheKeyOf (recipe : String) (arguments : List String) : Job Unit := do
  let args ← Job.ofExcept (BuildArguments.ofPairs arguments)
  let key ← CacheKey.compute (← Job.resolve recipe) args
  Job.print key
  leave [("cache-key", key)]

def checkCache (s : Surroundings) (found : Settings) (key : String) (remoteText : Option String) :
    Job Unit := do
  let store ← remote s found remoteText
  if ← Cache.check store { forceRebuild := found.forceRebuild, workers := none } key then
    Job.print ("✓ 캐시 히트: " ++ key)
    leave [("cache-hit", "true")]
  else
    Job.print ("캐시 미스: " ++ key ++ (if found.forceRebuild then " (강제 재빌드)" else ""))
    leave [("cache-hit", "false")]

/-- How caches are filled and read: never as if a rebuild were forced. -/
def transfer (found : Settings) : CacheOptions :=
  { forceRebuild := false, workers := some found.uploadConcurrency }

def downloadCache (s : Surroundings) (found : Settings) (key folder : String)
    (remoteText : Option String) : Job Unit := do
  let store ← remote s found remoteText
  let target ← Cache.download store (transfer found) key (← Job.resolve folder)
  Job.print ("✓ 캐시 다운로드 완료: " ++ target.text)

def uploadCache (s : Surroundings) (found : Settings) (key folder : String)
    (remoteText : Option String) : Job Unit := do
  let store ← remote s found remoteText
  let result ← Cache.upload store (transfer found) key (← Job.resolve folder)
  Job.print ("✓ 캐시 업로드 완료: " ++ count result.uploadedFiles ++ " 파일 (" ++ result.manifestKey ++ ")")

def pinnedRow (p : Pinned) : List String :=
  let lines := Text.joined "\n" p.replaced
  [p.candidate.name, p.candidate.version,
    if p.alreadyPinned && p.replaced.isEmpty then "(이미 고정됨)" else if lines = "" then "-" else lines]

def pinRequirements (install requirements : String) (mapping : Option String) (dryRun : Bool) :
    Job Unit := do
  let mapping ←
    match mapping with
    | some file => if file = "" then pure Mapping.builtIn else Mapping.load (← Job.resolve file)
    | none => pure Mapping.builtIn
  let result ← Pin.run (← Job.resolve install) (← Job.resolve requirements) { mapping, dryRun }
  if result.pinned.isEmpty then Job.print "고정할 패키지가 없습니다"
  else Job.table ["패키지", "버전", "대체된 줄"] (result.pinned.map pinnedRow)
  showLines (result.skipped.map fun skipped => "건너뜀: " ++ skipped.1)
  if dryRun then showLines ["\n[dry-run] 변경 후 내용:\n", result.content]
  else if result.changed then Job.print ("✓ " ++ result.requirements.text ++ " 갱신됨")
  else Job.print "변경 사항 없음"

def packagesOf (text : String) : Except Failure (List String) :=
  match BuildArguments.listParts text.toList with
  | [] => .error (.configuration "--packages에 하나 이상의 패키지명이 필요합니다" none)
  | names => .ok names

def mismatch? (project : Option String) (v : Validation) : Option Failure :=
  if v.mismatches.isEmpty then none
  else some (.mismatch (v.projectWheel.getD (project.getD "undefined")) v.mismatches)

def removeDuplicates (custom all packages : String) (project : Option String) (strict dryRun : Bool) :
    Job Unit := do
  let names ← Job.ofExcept (packagesOf packages)
  let result ← Filter.run (← Job.resolve custom) (← Job.resolve all) names { project, dryRun }
  let mark := if dryRun then "[dry-run] " else ""
  showLines (result.removed.map fun f => mark ++ "- 제거 " ++ f)
  showLines (result.restored.map fun f => mark ++ "+ 복사 " ++ f)
  showLines (result.noCustomBuild.map fun name => "커스텀 빌드 없음: " ++ name)
  Job.print ("\n✓ 제거 " ++ count result.removed.length ++ ", 유지 " ++ count result.kept.length ++
    ", 복사 " ++ count result.restored.length)
  match result.validation.bind (mismatch? project) with
  | none => pure ()
  | some mismatch =>
    if strict then throw mismatch
    Job.print ("경고: " ++ mismatch.message)

def listOf? : Option String → Option (List String)
  | some text => if text = "" then none else some (BuildArguments.listParts text.toList)
  | none => none

/-- What an index is made with: what is wished for, and the settings where nothing is. -/
def indexOptions (found : Settings) (wish : IndexWish) : IndexOptions :=
  { variant := wish.variant.getD found.variant
    baseUrl := wish.baseUrl <|> found.baseUrl
    labels :=
      { projectVersion := wish.projectVersion
        rocmVersion := wish.rocmVersion
        architectures := listOf? wish.architectures }
    includeHashes := wish.hashes }

def generateIndex (found : Settings) (wheels output : String) (wish : IndexWish) : Job Unit := do
  let result ← Index.run (← Job.resolve wheels) (← Job.resolve output) (indexOptions found wish)
  showLines (result.packages.map fun p => "  " ++ p.name ++ " (" ++ toString p.files.length ++ ")")
  showLines (result.skipped.map ("건너뜀: " ++ ·))
  Job.print ("\n✓ " ++ result.variant ++ ": " ++ count result.packages.length ++ " 패키지, " ++
    count result.totalFiles ++ " 파일 (변형: " ++ Text.joined ", " result.variants ++ ")")

def publishSite (s : Surroundings) (found : Settings) (wheels site : String)
    (remoteText : Option String) (scope : PublishScope) (dryRun : Bool) : Job Unit := do
  let store ← remote s found remoteText
  let result ← Publish.run (← Job.resolve wheels) (← Job.resolve site) store scope
    { mainBranch := found.mainBranch, workers := found.uploadConcurrency, dryRun,
      showsProgress := !dryRun }
  if result.dryRun then
    Job.print ("[dry-run] 업로드 예정 객체 " ++ count result.objects.length ++ ":")
    showLines (result.objects.map ("  " ++ ·.key))
  else Job.print ("\n✓ 업로드 완료: " ++ count result.uploadedObjects ++ " 객체")
  Job.print ("대상 prefix: " ++ Text.joined ", " result.destinations)

def thresholdOf (found : Settings) (text : Option String) : Except Failure Number :=
  let threshold :=
    match text with
    | some t => Number.ofText t
    | none => found.largeWheelThresholdMB
  if threshold.isFinite && threshold.isPositive then .ok threshold
  else
    .error (.configuration ("--threshold-mb는 양수여야 합니다: " ++ text.getD "undefined") none)

def listedWheels : Nat := 5

def wheelRow (w : OrganizedWheel) : List String := [w.filename, ByteSize.text (.ofNat w.size)]

def organizeWheels (found : Settings) (artifacts output : String) (thresholdMB : Option String) :
    Job Unit := do
  let threshold ← Job.ofExcept (thresholdOf found thresholdMB)
  let result ← Organize.run (← Job.resolve artifacts) (← Job.resolve output)
    { sizeLimit := threshold.times (1024 * 1024), moment := some (← get).now, showsProgress := false }
  Job.print ("\n총 " ++ count result.totalWheels ++ " wheel")
  Job.print ("  " ++ threshold.text ++ "MB 초과: " ++ count result.large.length ++ " (" ++
    ByteSize.text (.ofNat result.largeTotalSize) ++ ")")
  Job.print ("  " ++ threshold.text ++ "MB 이하: " ++ count result.small.length ++ " (" ++
    ByteSize.text (.ofNat result.smallTotalSize) ++ ")")
  unless result.large.isEmpty do
    Job.table ["큰 wheel", "크기"] ((result.large.take listedWheels).map wheelRow)
  showLines (result.failed.map ("처리 실패: " ++ ·))
  Job.print ("\n✓ 릴리스 태그: " ++ result.releaseTag)
  leave [("release_tag", result.releaseTag)]

def allSettings (s : Surroundings) : Job Members := do
  let stored ← s.settings.read
  return Settings.merge stored.members (← get).environment

def showSetting (s : Surroundings) (name : Option String) : Job Unit := do
  let all ← allSettings s
  match name with
  | some key =>
    if key = "" then showAll all
    else
      match all.lookup key with
      | some value => Job.print (key ++ ": " ++ value.line)
      | none => Job.print ("설정 '" ++ key ++ "'를 찾을 수 없습니다")
  | none => showAll all
where
  showAll (all : Members) : Job Unit := showLines ["\n현재 설정:", (Json.object all).page]

def description : SettingKey → String
  | .bucket => "S3 버킷"
  | .scope => "원격 네임스페이스 prefix"
  | .region => "S3 리전"
  | .endpoint => "S3 호환 엔드포인트"
  | .baseUrl => "인덱스 절대 URL"
  | .variant => "기본 인덱스 변형"
  | .mainBranch => "nightly 기준 브랜치"
  | .logLevel => "로그 레벨"
  | .logsDir => "로그 파일 디렉토리"
  | .uploadConcurrency => "동시 업로드 수"
  | .largeWheelThresholdMB => "큰 wheel 기준 (MB)"
  | .forcePathStyle => "S3 path-style 주소 사용"

def shownValue : Option Json → String
  | some (.string s) => s
  | some v => v.line
  | none => "(없음)"

def listAll (s : Surroundings) : Job Unit := do
  let all ← allSettings s
  Job.print ("\n설정 목록 (" ++ s.settings.shown ++ "):\n")
  Job.table ["설정", "값", "설명"]
    (SettingKey.all.map fun k => [k.name, shownValue (all.lookup k.name), description k])
  -- This one cannot be stored, so it is not in the list.
  if (all.lookup "forceRebuild").bind Json.bool? = some true then
    Job.print "강제 재빌드 플래그가 환경 변수로 설정되어 있습니다"

def run (s : Surroundings) : Request → Job Nat
  | .cacheKey recipe arguments => do
    let _ ← start s
    carryOut "캐시 키 계산" (cacheKeyOf recipe arguments)
  | .cacheCheck key remoteText => do
    let found ← start s
    carryOut "캐시 조회" (checkCache s found key remoteText)
  | .cacheDownload key folder remoteText => do
    let found ← start s
    carryOut "캐시 다운로드" (downloadCache s found key folder remoteText)
  | .cacheUpload key folder remoteText => do
    let found ← start s
    carryOut "캐시 업로드" (uploadCache s found key folder remoteText)
  | .pin install requirements mapping dryRun => do
    let _ ← start s
    carryOut "requirements 고정" (pinRequirements install requirements mapping dryRun)
  | .filter custom all packages project strict dryRun => do
    let _ ← start s
    carryOut "중복 필터링" (removeDuplicates custom all packages project strict dryRun)
  | .index wheels output wish => do
    let found ← start s
    carryOut "인덱스 생성" (generateIndex found wheels output wish)
  | .publish wheels site remoteText scope dryRun => do
    let found ← start s
    carryOut "업로드" (publishSite s found wheels site remoteText scope dryRun)
  | .organize artifacts output thresholdMB => do
    let found ← start s
    carryOut "wheel 분류" (organizeWheels found artifacts output thresholdMB)
  | .getSetting name => do
    showSetting s name
    return 0
  | .setSetting name value =>
    carryOut "설정 저장" do
      s.settings.set name value
      Job.print ("✓ 설정이 저장되었습니다: " ++ name ++ " = " ++ value)
  | .listSettings => do
    listAll s
    return 0
  | .resetSettings =>
    carryOut "설정 초기화" do
      s.settings.reset
      Job.print "✓ 설정이 초기화되었습니다"

end Wheelhouse.Request
