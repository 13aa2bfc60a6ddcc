import Wheelhouse.CommandLine.Scan
import Wheelhouse.Request.Basic

set_option autoImplicit false

namespace Wheelhouse

structure Word where
  name : String
  isRequired : Bool
  default : Option String
  help : String

def Word.spelling (w : Word) : String :=
  if w.isRequired then "<" ++ w.name ++ ">" else "[" ++ w.name ++ "]"

structure Given where
  flags : List (Flag × Option String)
  words : List String

namespace Given

def has (g : Given) (long : String) : Bool := g.flags.any fun f => f.1.long = long

def texts (g : Given) (long : String) : List String :=
  (g.flags.filter fun f => f.1.long = long).filterMap (·.2)

def text? (g : Given) (long : String) : Option String := (g.texts long).getLast?

def text (g : Given) (long : String) : String := (g.text? long).getD ""

def word? (g : Given) (n : Nat) : Option String := g.words[n]?

def word (g : Given) (n : Nat) : String := (g.word? n).getD ""

end Given

structure Verb where
  name : String
  summary : String
  words : List Word
  flags : List Flag
  request : Given → Request

def Verb.call (v : Verb) : String :=
  Text.joined " "
    (v.name :: ((if v.flags.isEmpty then [] else ["[options]"]) ++ v.words.map Word.spelling))

inductive Branch where
  | verb (v : Verb)
  | family (name summary : String) (verbs : List Verb)

def Branch.name : Branch → String
  | .verb v => v.name
  | .family name _ _ => name

namespace CommandLine

def programName : String := "rocwheel"

def version : String := "0.3.0"

def programSummary : String := "rocwheel - ROCm wheel 빌드/배포 파이프라인 도구"

def needed (name help : String) : Word := ⟨name, true, none, help⟩

def optional (name help : String) : Word := ⟨name, false, none, help⟩

def usual (name default help : String) : Word := ⟨name, false, some default, help⟩

def valued (long value help : String) : Flag := ⟨none, long, some value, false, help⟩

def switch (long help : String) : Flag := ⟨none, long, none, false, help⟩

def lettered (c : Char) (f : Flag) : Flag := { f with short := some c }

def mandatory (f : Flag) : Flag := { f with isRequired := true }

def helpFlag : Flag := lettered 'h' (switch "--help" "도움말 표시")

def versionFlag : Flag := lettered 'v' (switch "--version" "버전 정보 표시")

def remoteFlag : Flag := valued "--remote" "url" "원격 위치 (s3://bucket/ns, file:///dir)"

def keyWord : Word := needed "key" "캐시 키"

def cacheVerbs : List Verb :=
  [{ name := "key"
     summary := "빌드 레시피와 인자로 캐시 키 계산"
     words := []
     flags :=
       [mandatory (lettered 'r' (valued "--recipe" "file" "빌드 레시피 파일 (예: Dockerfile)")),
         lettered 'a' (valued "--arg" "pair" "빌드 인자 KEY=VALUE (반복 가능)")]
     request := fun g => .cacheKey (g.text "--recipe") (g.texts "--arg") },
   { name := "check"
     summary := "캐시 조회 (hit/miss)"
     words := [keyWord]
     flags := [remoteFlag]
     request := fun g => .cacheCheck (g.word 0) (g.text? "--remote") },
   { name := "download"
     summary := "캐시 내용 다운로드"
     words := [keyWord, needed "dir" "저장할 디렉토리"]
     flags := [remoteFlag]
     request := fun g => .cacheDownload (g.word 0) (g.word 1) (g.text? "--remote") },
   { name := "upload"
     summary := "빌드 결과를 캐시에 업로드"
     words := [keyWord, needed "dir" "업로드할 디렉토리"]
     flags := [remoteFlag]
     request := fun g => .cacheUpload (g.word 0) (g.word 1) (g.text? "--remote") }]

def pinVerb : Verb :=
  { name := "pin"
    summary := "빌드된 아카이브 버전으로 requirements 고정"
    words := [needed "installDir" "빌드된 아카이브 디렉토리", needed "requirements" "requirements 파일"]
    flags :=
      [lettered 'm' (valued "--mapping" "file" "패키지 매핑 JSON 파일"),
        switch "--dry-run" "파일을 수정하지 않고 결과만 출력"]
    request := fun g => .pin (g.word 0) (g.word 1) (g.text? "--mapping") (g.has "--dry-run") }

def filterVerb : Verb :=
  { name := "filter"
    summary := "커스텀 빌드가 있는 패키지의 외부 사본 제거"
    words := [needed "customDir" "커스텀 빌드 디렉토리", needed "allDir" "전체 수집 디렉토리"]
    flags :=
      [mandatory (lettered 'p' (valued "--packages" "names" "필터 대상 패키지 (쉼표 구분)")),
        valued "--project" "name" "의존성 버전을 검증할 프로젝트",
        switch "--strict-validation" "버전 불일치 시 실패 처리",
        switch "--dry-run" "삭제/복사 없이 결과만 출력"]
    request := fun g =>
      .filter (g.word 0) (g.word 1) (g.text "--packages") (g.text? "--project")
        (g.has "--strict-validation") (g.has "--dry-run") }

def indexVerb : Verb :=
  { name := "index"
    summary := "PEP 503 정적 인덱스 생성"
    words := [needed "wheelsDir" "아카이브 디렉토리", needed "outputDir" "인덱스 루트 디렉토리"]
    flags :=
      [valued "--variant" "name" "변형 디렉토리 이름 (예: rocm7.0)",
        valued "--base-url" "url" "아카이브 절대 URL",
        valued "--project-version" "version" "제목에 표시할 프로젝트 버전",
        valued "--rocm-version" "version" "제목에 표시할 ROCm 버전",
        valued "--arch" "list" "제목에 표시할 GPU 아키텍처 (쉼표 구분)",
        switch "--no-hashes" "sha256 프래그먼트 생략"]
    request := fun g =>
      .index (g.word 0) (g.word 1)
        { variant := g.text? "--variant"
          baseUrl := g.text? "--base-url"
          projectVersion := g.text? "--project-version"
          rocmVersion := g.text? "--rocm-version"
          architectures := g.text? "--arch"
          hashes := !g.has "--no-hashes" } }

def publishVerb : Verb :=
  { name := "upload"
    summary := "wheel과 인덱스를 커밋/nightly/버전 prefix에 업로드"
    words := [needed "wheelsDir" "wheel 디렉토리", needed "indexDir" "인덱스 루트 디렉토리"]
    flags :=
      [remoteFlag,
        mandatory (valued "--commit" "sha" "커밋 식별자"),
        mandatory (valued "--branch" "name" "브랜치"),
        switch "--release" "릴리스 업로드 (버전 prefix에도 복사)",
        valued "--version" "version" "릴리스 버전",
        switch "--dry-run" "업로드 대상만 출력"]
    request := fun g =>
      .publish (g.word 0) (g.word 1) (g.text? "--remote")
        { commit := g.text "--commit"
          branch := g.text "--branch"
          isRelease := g.has "--release"
          version := g.text? "--version" }
        (g.has "--dry-run") }

def organizeVerb : Verb :=
  { name := "organize"
    summary := "wheel을 크기별로 분류하고 릴리스 태그 생성"
    words :=
      [usual "artifactsDir" "artifacts" "빌드 아티팩트 디렉토리", usual "outputDir" "." "출력 디렉토리"]
    flags := [valued "--threshold-mb" "n" "큰 wheel 기준 크기 (MB)"]
    request := fun g =>
      .organize ((g.word? 0).getD "artifacts") ((g.word? 1).getD ".") (g.text? "--threshold-mb") }

def settingVerbs : List Verb :=
  [{ name := "get"
     summary := "설정값 조회"
     words := [optional "key" "설정 키"]
     flags := []
     request := fun g => .getSetting (g.word? 0) },
   { name := "set"
     summary := "설정값 변경"
     words := [needed "key" "설정 키", needed "value" "설정값"]
     flags := []
     request := fun g => .setSetting (g.word 0) (g.word 1) },
   { name := "list", summary := "모든 설정 표시", words := [], flags := [], request := fun _ => .listSettings },
   { name := "reset", summary := "설정 초기화", words := [], flags := [], request := fun _ => .resetSettings }]

def branches : List Branch :=
  [.family "cache" "빌드 캐시 관리" cacheVerbs, .verb pinVerb, .verb filterVerb, .verb indexVerb,
    .verb publishVerb, .verb organizeVerb, .family "config" "설정 관리" settingVerbs]

end CommandLine

end Wheelhouse
