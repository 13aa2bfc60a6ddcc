import Wheelhouse.Json.Basic
import Wheelhouse.Workspace

set_option autoImplicit false

namespace Wheelhouse.StepOutput

def set (outputs : List (String × String)) (output : String × String) : List (String × String) :=
  match outputs with
  | [] => [output]
  | (name, value) :: rest =>
    if name = output.1 then output :: rest else (name, value) :: set rest output

/-- Outputs in the order in which they are written; a later one replaces an earlier one of its name. -/
def arrange (outputs : List (String × String)) : List (String × String) :=
  Json.listed (outputs.foldl set [])

def line (output : String × String) : String := output.1 ++ "=" ++ output.2 ++ "\n"

/-- Writes at the end of the file that a text names. The text goes to the system as it is, and so it
stands in errors. -/
def append (name text : String) : Job Unit := do
  let w ← get
  let start := if "/".toList.isPrefixOf name.toList then [] else w.cwd
  match w.disk.travel start ((Path.segments name).filter (· != "")) with
  | .error code => throw (.disk (.system code "open" (some name)))
  | .ok p =>
    let marked := "/".toList.isSuffixOf name.toList && p != []
    match ← Job.outcome (Job.appendText (if marked then p ++ [""] else p) text) with
    | .error (.disk e) => throw (.disk (e.shownAs name))
    | .error e => throw e
    | .ok _ => return ()

def write (file : Option String) (outputs : List (String × String)) : Job Bool := do
  match file with
  | none => return false
  | some name =>
    if name = "" then return false
    append name (String.join ((arrange outputs).map line))
    return true

end Wheelhouse.StepOutput
