import Wheelhouse.Json.Basic
import Wheelhouse.Text.Blank
import Wheelhouse.Text.LowerCase

set_option autoImplicit false

namespace Wheelhouse

inductive SettingKind where
  | text
  | number
  | flag
  deriving DecidableEq

inductive SettingKey where
  | bucket
  | scope
  | region
  | endpoint
  | baseUrl
  | variant
  | mainBranch
  | logLevel
  | logsDir
  | uploadConcurrency
  | largeWheelThresholdMB
  | forcePathStyle
  deriving DecidableEq

namespace SettingKey

/-- All keys, those of texts first and those of flags last. -/
def all : List SettingKey :=
  [bucket, scope, region, endpoint, baseUrl, variant, mainBranch, logLevel, logsDir,
    uploadConcurrency, largeWheelThresholdMB, forcePathStyle]

theorem mem_all (k : SettingKey) : k ∈ all := by
  cases k <;> simp [all]

def name : SettingKey → String
  | bucket => "bucket"
  | scope => "namespace"
  | region => "region"
  | endpoint => "endpoint"
  | baseUrl => "baseUrl"
  | variant => "variant"
  | mainBranch => "mainBranch"
  | logLevel => "logLevel"
  | logsDir => "logsDir"
  | uploadConcurrency => "uploadConcurrency"
  | largeWheelThresholdMB => "largeWheelThresholdMB"
  | forcePathStyle => "forcePathStyle"

def kind : SettingKey → SettingKind
  | uploadConcurrency | largeWheelThresholdMB => .number
  | forcePathStyle => .flag
  | _ => .text

def ofName? (s : String) : Option SettingKey := all.find? fun k => k.name = s

end SettingKey

inductive SettingValue where
  | text (value : String)
  | number (value : Number)
  | flag (value : Bool)
  deriving DecidableEq

namespace SettingValue

def json : SettingValue → Json
  | text value => .string value
  | number value => .number value
  | flag value => .bool value

def trueWords : List String := ["1", "true", "yes", "on"]

/-- Whether a text switches a flag on; blanks around it and letter case do not count. -/
def isTrue (value : String) : Bool :=
  trueWords.contains (String.ofList (Text.lower (Text.trim value.toList)))

def isTrue? : Option String → Bool
  | some value => isTrue value
  | none => false

/-- The value of a setting in a file, if it is one of its kind: a text that is not empty, a finite
number above zero, or a truth value. -/
def accept (kind : SettingKind) (v : Json) : Option SettingValue :=
  match kind, v with
  | .text, .string s => if s = "" then none else some (text s)
  | .number, .number n => if n.isFinite && n.isPositive then some (number n) else none
  | .flag, .bool b => some (flag b)
  | _, _ => none

end SettingValue

abbrev StoredSettings := List (SettingKey × SettingValue)

namespace StoredSettings

def members (stored : StoredSettings) : Members :=
  stored.map fun s => (s.1.name, s.2.json)

def ofMembers (found : Members) : StoredSettings :=
  SettingKey.all.filterMap fun k =>
    ((found.lookup k.name).bind (SettingValue.accept k.kind)).map fun v => (k, v)

def ofJson : Json → StoredSettings
  | .object found => ofMembers found
  | _ => []

def set (key : SettingKey) (value : SettingValue) : StoredSettings → StoredSettings
  | [] => [(key, value)]
  | (k, old) :: rest => if k = key then (key, value) :: rest else (k, old) :: set key value rest

def defaults : StoredSettings :=
  [(.scope, .text "rocm"), (.region, .text "us-east-1"), (.forcePathStyle, .flag false),
    (.variant, .text "rocm"), (.mainBranch, .text "main"), (.uploadConcurrency, .number (.ofNat 8)),
    (.largeWheelThresholdMB, .number (.ofNat 100)), (.logLevel, .text "info")]

end StoredSettings

end Wheelhouse
