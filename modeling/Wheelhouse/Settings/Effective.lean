import Wheelhouse.Settings.Key

set_option autoImplicit false

namespace Wheelhouse

structure Settings where
  bucket : Option String
  scope : String
  region : String
  endpoint : Option String
  forcePathStyle : Bool
  baseUrl : Option String
  variant : String
  mainBranch : String
  uploadConcurrency : Number
  largeWheelThresholdMB : Number
  logLevel : String
  logsDir : Option String
  forceRebuild : Bool

namespace Settings

/-- The environment variables that replace a setting, in the order in which they are looked at. -/
def sources : List (String × SettingKey) :=
  [("ROCWHEEL_BUCKET", .bucket), ("ROCWHEEL_NAMESPACE", .scope), ("ROCWHEEL_REGION", .region),
    ("ROCWHEEL_S3_ENDPOINT", .endpoint), ("ROCWHEEL_BASE_URL", .baseUrl),
    ("ROCWHEEL_LOG_LEVEL", .logLevel)]

/-- Whether a rebuild is forced. The first of the two variables that is there decides. -/
def forcesRebuild (environment : List (String × String)) : Bool :=
  match environment.lookup "ROCWHEEL_FORCE_REBUILD" with
  | some value => SettingValue.isTrue value
  | none => SettingValue.isTrue? (environment.lookup "FORCE_REBUILD")

/-- Puts the value of a variable over a setting, unless it is missing or empty. -/
def override (environment : List (String × String)) (settings : Members)
    (source : String × SettingKey) : Members :=
  match environment.lookup source.1 with
  | some value => if value = "" then settings else Json.setMember source.2.name (.string value) settings
  | none => settings

def merge (stored : Members) (environment : List (String × String)) : Members :=
  let merged := stored.foldl (fun all m => Json.setMember m.1 m.2 all) StoredSettings.defaults.members
  -- A file has no say in whether a rebuild is forced.
  let flagged := Json.setMember "forceRebuild" (.bool (forcesRebuild environment)) merged
  sources.foldl (override environment) flagged

def ofMembers (all : Members) : Settings :=
  let text? (k : SettingKey) : Option String := (all.lookup k.name).bind Json.string?
  let number (k : SettingKey) : Number := ((all.lookup k.name).bind Json.number?).getD .undefined
  let flag (name : String) : Bool := ((all.lookup name).bind Json.bool?).getD false
  { bucket := text? .bucket
    scope := (text? .scope).getD ""
    region := (text? .region).getD ""
    endpoint := text? .endpoint
    forcePathStyle := flag SettingKey.forcePathStyle.name
    baseUrl := text? .baseUrl
    variant := (text? .variant).getD ""
    mainBranch := (text? .mainBranch).getD ""
    uploadConcurrency := number .uploadConcurrency
    largeWheelThresholdMB := number .largeWheelThresholdMB
    logLevel := (text? .logLevel).getD ""
    logsDir := text? .logsDir
    forceRebuild := flag "forceRebuild" }

def load (stored : StoredSettings) (environment : List (String × String)) : Settings :=
  ofMembers (merge stored.members environment)

end Settings

end Wheelhouse
