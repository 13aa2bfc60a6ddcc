import Wheelhouse.Calendar
import Wheelhouse.Json.Printer
import Wheelhouse.Json.Reader
import Wheelhouse.Workspace

set_option autoImplicit false

namespace Wheelhouse

structure Manifest where
  key : String
  files : List String
  createdAt : String

namespace Manifest

def fileName : String := "cache-manifest.json"

def json (m : Manifest) : Json :=
  .object [("key", .string m.key), ("files", .array (m.files.map .string)),
    ("createdAt", .string m.createdAt)]

def text (m : Manifest) : String := m.json.page

def files? : Json → Option (List String)
  | .object members => ((members.lookup "files").bind Json.array?).bind fun items => items.mapM Json.string?
  | _ => none

def readFiles (manifestKey text : String) : Except Failure (List String) :=
  match Json.parse text with
  | .error fault => .error (.notJson none text fault)
  | .ok v =>
    match files? v with
    | some files => .ok files
    | none => .error (.missing "유효한 캐시 매니페스트" manifestKey none)

end Manifest

end Wheelhouse
