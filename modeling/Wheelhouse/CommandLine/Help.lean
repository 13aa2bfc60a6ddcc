import Wheelhouse.CommandLine.Grammar

set_option autoImplicit false

namespace Wheelhouse.CommandLine

abbrev HelpItem := String × String

def flagItem (f : Flag) : HelpItem := (f.spelling, f.help)

def wordItem (w : Word) : HelpItem :=
  (w.name, w.help ++
    match w.default with
    | some d => " (default: \"" ++ d ++ "\")"
    | none => "")

def verbItem (v : Verb) : HelpItem := (v.call, v.summary)

def branchItem : Branch → HelpItem
  | .verb v => verbItem v
  | .family name summary _ => (name, summary)

def helpItem : HelpItem := (Scan.helpWord ++ " [command]", "명령어 도움말 표시")

def block (width : Nat) (heading : String) (items : List HelpItem) : List String :=
  if items.isEmpty then []
  else
    "" :: (heading ++ ":") :: items.map fun item =>
      "  " ++ item.1 ++ String.ofList (List.replicate (width - item.1.length) ' ') ++ "  " ++ item.2

def page (usage summary : String) (words flags commands : List HelpItem) : String :=
  let width := ((words ++ flags ++ commands).map fun item => item.1.length).foldl max 0
  Text.joined "\n"
    (["Usage: " ++ usage, "", summary] ++ block width "Arguments" words ++
      block width "Options" flags ++ block width "Commands" commands)

def rootPage : String :=
  page (programName ++ " [options] [command]") programSummary [] ([versionFlag, helpFlag].map flagItem)
    (branches.map branchItem ++ [helpItem])

def familyPage (name summary : String) (verbs : List Verb) : String :=
  page (programName ++ " " ++ name ++ " [options] [command]") summary [] [flagItem helpFlag]
    (verbs.map verbItem ++ [helpItem])

def verbPage (names : List String) (v : Verb) : String :=
  page (Text.joined " " (programName :: names ++ v.name :: "[options]" :: v.words.map Word.spelling))
    v.summary (v.words.map wordItem) ((v.flags ++ [helpFlag]).map flagItem) []

def banner : List String :=
  ["\n  rocwheel - ROCm wheel 빌드/배포 파이프라인 도구\n",
    "  사용법: rocwheel <명령어> [옵션]\n",
    "  명령어:",
    "    cache       빌드 캐시 키 계산/조회/업로드",
    "    pin         requirements 버전 고정",
    "    filter      중복 아카이브 제거",
    "    index       PEP 503 인덱스 생성",
    "    upload      wheel/인덱스 업로드",
    "    organize    wheel 크기별 분류",
    "    config      설정 관리",
    "\n  예시:",
    "    rocwheel cache key -r docker/Dockerfile -a ROCM_VERSION=7.0 -a \"ARCH=gfx942;gfx950\"",
    "    rocwheel pin install/ requirements.txt",
    "    rocwheel index wheels/ site/ --variant rocm7.0 --project-version 0.11.0",
    "    rocwheel upload wheels/ site/ --remote s3://bucket/rocm --commit abc1234 --branch main",
    "\n  자세한 내용: rocwheel --help\n"]

end Wheelhouse.CommandLine
