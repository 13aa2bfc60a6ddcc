import Wheelhouse.Json.Printer
import Wheelhouse.Json.Reader
import Wheelhouse.Settings.Key
import Wheelhouse.Workspace

/-!
The settings file. A file that is missing or cannot be read counts as empty; setting a value writes all
known settings again.
-/

set_option autoImplicit false

namespace Wheelhouse

structure SettingsFile where
  shown : String
  path : Path

/-- A text without the mark that may stand at the start of a data file. -/
def withoutMark (s : String) : String :=
  match s.toList with
  | '\uFEFF' :: rest => String.ofList rest
  | _ => s

def readData (p : Path) : Job Json := do
  let text := withoutMark (← Job.readText p)
  match Json.parse text with
  | .ok v => return v
  | .error fault => throw (.notJson (some p.text) text fault)

namespace SettingsFile

/-- The settings that are stored. What keeps the file from being read is reported. -/
def read (file : SettingsFile) : Job StoredSettings := do
  if ← Job.has file.path then
    match ← Job.outcome (readData file.path) with
    | .ok v => return StoredSettings.ofJson v
    | .error e =>
      Job.complain ("설정 파일 로드 실패, 기본값 사용 (" ++ file.shown ++ "): " ++ e.kindName ++ ": " ++
        e.message)
      return []
  else return []

def write (file : SettingsFile) (stored : StoredSettings) : Job Unit := do
  Job.ensureFolder file.path.parent
  Job.writeText file.path ((Json.object stored.members).page ++ "\n")

def readValue (key : SettingKey) (value : String) : Except Failure SettingValue :=
  match key.kind with
  | .text => .ok (.text value)
  | .flag => .ok (.flag (SettingValue.isTrue value))
  | .number =>
    let n := Number.ofText value
    if n.isFinite && n.isPositive then .ok (.number n)
    else .error (.configuration (key.name ++ "는 양수여야 합니다: " ++ value) none)

def unknownKey (name : String) : Failure :=
  .configuration
    ("알 수 없는 설정 키: " ++ name ++ " (사용 가능: " ++
      Text.joined ", " (SettingKey.all.map SettingKey.name) ++ ")") none

def set (file : SettingsFile) (name value : String) : Job Unit := do
  match SettingKey.ofName? name with
  | none => throw (unknownKey name)
  | some key =>
    let stored ← file.read
    let v ← Job.ofExcept (readValue key value)
    file.write (stored.set key v)

def reset (file : SettingsFile) : Job Unit := file.write .defaults

end SettingsFile

end Wheelhouse
