import Wheelhouse.Disk.Walk
import Wheelhouse.Pin.RequirementFile

set_option autoImplicit false

namespace Wheelhouse

structure PinOptions where
  mapping : Mapping
  dryRun : Bool

structure PinResult where
  requirements : Path
  pinned : List Pinned
  skipped : List (String × String)
  ignored : List String
  changed : Bool
  content : String

namespace Pin

def run (install requirements : Path) (options : PinOptions) : Job PinResult := do
  unless ← Job.has requirements do throw (.missing "requirements 파일" requirements.text none)
  unless ← Job.has install do throw (.missing "install 디렉토리" install.text none)
  let selection := Selection.ofFiles options.mapping (← Job.look fun d => d.listFiles install)
  selection.notices.forM fun n => Job.record (.notice n)
  let text ← Job.readText requirements
  let (content, pinned) := RequirementFile.pin text selection.candidates
  (pinned.filterMap RequirementFile.notice?).forM fun n => Job.record (.notice n)
  let changed := content != text
  if changed && !options.dryRun then Job.writeText requirements content
  Job.info "requirements 고정 완료"
    [("requirementsPath", .string requirements.text),
      ("pinned", Selection.strings (pinned.map Pinned.line)),
      ("skipped", .number (.ofNat selection.skipped.length)), ("changed", .bool changed),
      ("dryRun", .bool options.dryRun)]
  return { requirements, pinned, skipped := selection.skipped, ignored := selection.ignored, changed,
           content }

end Pin

end Wheelhouse
