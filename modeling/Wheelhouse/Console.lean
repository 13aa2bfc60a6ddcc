import Wheelhouse.Calendar
import Wheelhouse.Json.Printer
import Wheelhouse.Table
import Wheelhouse.Workspace

set_option autoImplicit false

namespace Wheelhouse

namespace Severity

def name : Severity → String
  | .error => "error"
  | .warn => "warn"
  | .info => "info"
  | .debug => "debug"

def colour : Severity → Nat
  | .error => 31
  | .warn => 33
  | .info => 32
  | .debug => 34

end Severity

structure Console where
  level : String
  isSettled : Bool

inductive Output where
  | standard (text : String)
  | error (text : String)
  deriving DecidableEq

def Output.wellFormed : Output → Output
  | .standard text => .standard (Text.wellFormed text)
  | .error text => .error (Text.wellFormed text)

namespace Console

def start (wanted : Option String) : Console :=
  match wanted with
  | some level => ⟨if level = "" then "info" else level, false⟩
  | none => ⟨"info", false⟩

def levels : List String := ["error", "warn", "info", "http", "verbose", "debug", "silly"]

/-- Whether records of a severity are shown: all of them if the level is empty, none if it is unknown. -/
def shows (c : Console) (s : Severity) : Bool :=
  c.level = "" ||
    match levels.idxOf? s.name, levels.idxOf? c.level with
    | some rank, some limit => rank ≤ limit
    | _, _ => false

/-- Whether a text has a place for a value; such a text takes no details. -/
def hasPlace : List Char → Bool
  | '%' :: c :: rest => "scdjifoO%".toList.contains c || hasPlace (c :: rest)
  | _ :: rest => hasPlace rest
  | [] => false

/-- The details that a value gives; the items of a list are named by their places. -/
def details : Json → Members
  | .object members => members
  | .array items => items.zipIdx.map fun (item, n) => (toString n, item)
  | _ => []

def hiddenNames : List String := ["level", "message", "timestamp", Json.reservedName]

mutual

def plain : Json → String
  | .null => "null"
  | .bool b => if b then "true" else "false"
  | .number n => n.text
  | .string s => s
  | .array items => Text.joined "," (plainItems items)
  | .object _ => "[object Object]"

def plainItems : List Json → List String
  | [] => []
  | .null :: rest => "" :: plainItems rest
  | item :: rest => plain item :: plainItems rest

end

mutual

/-- Whether a value has a text. An object that has a member in the place of its text has none. -/
def hasText : Json → Bool
  | .array items => haveText items
  | .object members => (members.lookup "toString").isNone
  | _ => true

def haveText : List Json → Bool
  | [] => true
  | item :: rest => hasText item && haveText rest

end

def isSomething : Json → Bool
  | .null => false
  | .bool b => b
  | .number n => n != .finite 0 && n != .undefined
  | .string s => s != ""
  | _ => true

def addition (found : Members) : String :=
  match found.lookup "message" with
  | some v => if isSomething v then " " ++ plain v else ""
  | none => ""

/-- A detail, or else the member of that name of the object under the reserved name. -/
def lookup? (found : Members) (name : String) : Option Json :=
  match found.lookup name with
  | some v => some v
  | none => ((found.lookup Json.reservedName).bind Json.object?).bind (·.lookup name)

/-- Whether the details mark a record that is left to others. -/
def isLeftOut (found : Members) : Bool := (lookup? found "exception").bind Json.bool? = some true

def isUsable (v : Option Json) : Bool := v.all fun v => !isSomething v || hasText v

def canWrite (text : String) (found : Members) : Bool :=
  hasPlace text.toList || (isUsable (found.lookup "message") && isUsable (lookup? found "stack"))

def line? (c : Console) (clock : String) (severity : Severity) (text : String) (found : Members) :
    Option String :=
  -- A text with a place for values would use the details up.
  let found := if hasPlace text.toList then [] else found
  let shown := found.filter fun m => !hiddenNames.contains m.1
  if c.shows severity && !isLeftOut found then
    some ("[" ++ clock ++ "] \x1b[" ++ toString severity.colour ++ "m" ++ severity.name ++ "\x1b[39m: " ++
      text ++ addition found ++
      (if shown.isEmpty then "" else " " ++ (Json.arranged (.object shown)).line) ++ "\n")
  else none

def log (c : Console) (clock : String) (severity : Severity) (text : String) (found : Members) :
    Except Failure (Option String) :=
  if canWrite text found then .ok (c.line? clock severity text found) else .error .noText

/-- Sets the level, which only the first call does. That this was done is a record itself. -/
def settle (c : Console) (clock level : String) (folder : Option String) : Console × Option String :=
  if c.isSettled then (c, none)
  else
    let c' : Console := ⟨level, true⟩
    let folder :=
      match folder with
      | some s => Json.string s
      | none => .null
    (c', c'.line? clock .debug "로거 초기화 완료" [("logsDir", folder), ("level", .string level)])

def write (c : Console) (clock : String) : Event → Console × Option Output
  | .line text => (c, some (.standard (text ++ "\n")))
  | .complaint text => (c, some (.error (text ++ "\n")))
  | .table head rows => (c, some (.standard (Table.draw head rows ++ "\n")))
  | .notice n => (c, (c.line? clock n.severity n.text n.details).map .standard)
  | .level name folder =>
    let (c', text) := c.settle clock name folder
    (c', text.map .standard)
  | _ => (c, none)

def writeAll (clock : String) : Console → List Event → List Output
  | _, [] => []
  | c, e :: rest =>
    let (c', text) := c.write clock e
    (text.map Output.wellFormed).toList ++ writeAll clock c' rest

end Console

end Wheelhouse
