import Wheelhouse.Text.Fields
import Wheelhouse.Text.LowerCase

/-!
Keys of objects. `join` puts keys together segment by segment, leaving out empty segments and `.`; it
does not matter how the segments are grouped. `contentType` guesses the type of an object from the
ending of its key.
-/

set_option autoImplicit false

namespace Wheelhouse.ObjectKey

def isKept (segment : String) : Bool := segment != "" && segment != "."

def segments (parts : List String) : List String :=
  (parts.flatMap (Text.fields (· == '/'))).filter isKept

def join (parts : List String) : String := Text.joined "/" (segments parts)

theorem segments_append (xs ys : List String) :
    segments (xs ++ ys) = segments xs ++ segments ys := by
  simp [segments]

def contentTypes : List (String × String) :=
  [("html", "text/html; charset=utf-8"), ("json", "application/json"), ("whl", "application/zip"),
    ("zip", "application/zip"), ("gz", "application/gzip"), ("txt", "text/plain; charset=utf-8")]

def ending? (key : String) : Option String :=
  match Text.cutLast '.' (Text.lower key.toList) with
  | none => none
  | some (_, ending) =>
    if !ending.isEmpty && ending.all (fun c => c.isLower || c.isDigit) then some (String.ofList ending)
    else none

def contentType (key : String) : String :=
  ((ending? key).bind fun e => contentTypes.lookup e).getD "application/octet-stream"

end Wheelhouse.ObjectKey
