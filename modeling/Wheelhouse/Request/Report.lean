import Wheelhouse.Settings.File
import Wheelhouse.Store.Location
import Wheelhouse.StepOutput

set_option autoImplicit false

namespace Wheelhouse

structure Surroundings where
  settings : SettingsFile
  service : ServiceRules

namespace Request

def settings (s : Surroundings) : Job Settings := do
  return Settings.load (← s.settings.read) (← get).environment

/-- The settings that hold, which also say how much is logged from here on. -/
def start (s : Surroundings) : Job Settings := do
  let found ← settings s
  Job.record (.level found.logLevel found.logsDir)
  return found

def remote (s : Surroundings) (found : Settings) (text : Option String) : Job Remote := do
  let location ← Job.ofExcept (Location.resolve (← get).cwd text found.location)
  Job.print ("원격 위치: " ++ location.place.description ++ "/" ++ location.scope)
  return ⟨location.store s.service, location.scope⟩

def leave (outputs : List (String × String)) : Job Unit := do
  let _ ← StepOutput.write (← Job.fromEnvironment "GITHUB_OUTPUT") outputs

def hints : Failure → List String
  | .missing _ location _ => ["  위치: " ++ location]
  | .publication _ completed incomplete _ =>
    (if completed.isEmpty then [] else ["  완료된 prefix: " ++ Failure.commaList completed]) ++
      (if incomplete.isEmpty then [] else ["  일부만 올라간 prefix: " ++ Failure.commaList incomplete])
  | _ => []

def report (task : String) (e : Failure) : Job Unit := do
  Job.complain ("\n✗ " ++ task ++ " 실패: " ++ e.message)
  (hints e).forM Job.complain
  Job.error (task ++ ": " ++ e.message) [("name", .string e.kindName)]
  match e.details? with
  | some details => Job.debug "오류 상세" details
  | none => pure ()

/-- Does a task. The answer is the exit code: 1 for a failure, which is reported, and 0 otherwise. -/
def carryOut (task : String) (body : Job Unit) : Job Nat := do
  match ← Job.outcome body with
  | .ok _ => return 0
  | .error e =>
    report task e
    return 1

end Request

end Wheelhouse
