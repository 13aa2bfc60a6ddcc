import Wheelhouse.Store.Basic
import Wheelhouse.Store.Key

/-!
A store in a folder. The object of a key is the file at the key's segments below the root of the store;
keys that lead out of it are refused.
-/

set_option autoImplicit false

namespace Wheelhouse.FolderStore

def place (root : Path) (key : String) : Except Failure Path :=
  let p := Path.descend root.bare (Path.segments (ObjectKey.join [key]))
  if Path.isInside root p then .ok p
  else .error (.configuration ("저장소 루트를 벗어나는 키: " ++ key) (some [("key", .string key)]))

def description (root : Path) : String := "file://" ++ root.bare.text

def existing (root : Path) (key : String) : Job Path := do
  let p ← Job.ofExcept (place root key)
  if ← Job.has p then return p
  else throw (.missing "원격 객체" (description root ++ "/" ++ ObjectKey.join [key]) none)

def prepare (root : Path) (key : String) : Job Path := do
  let p ← Job.ofExcept (place root key)
  Job.ensureFolder p.parent
  return p

/-- The store in a folder, which need not be there yet. -/
def store (root : Path) : ObjectStore where
  description := description root
  contains key := do Job.has (← Job.ofExcept (place root key))
  putFile key file _ := do Job.copy file (← prepare root key)
  putText key text _ := do Job.writeText (← prepare root key) text
  getFile key file := do
    let source ← existing root key
    Job.ensureFolder file.parent
    Job.copy source file
  getText key := do Job.readText (← existing root key)

end Wheelhouse.FolderStore
