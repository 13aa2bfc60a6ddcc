import Wheelhouse.Disk.Operations
import Wheelhouse.Text.Units

/-!
Listings. The files of one folder by name, all files below a folder by the whole of their relative
path, and all wheels below a folder. Each is sorted, so that the order in which the disk keeps its
entries does not show. A walk goes at most as deep as there are entries.
-/

set_option autoImplicit false

namespace Wheelhouse.Disk

def fileNames (children : List (String × Entry)) : List String :=
  (children.filter fun c => !c.2.isFolder).map (·.1)

def listFiles (d : Disk) (p : Path) : Except DiskError (List String) := do
  return Text.sorted (fileNames (← d.list p))

def walk (d : Disk) : Nat → Path → List Path
  | 0, _ => []
  | fuel + 1, p =>
    (d.children p).flatMap fun child =>
      if child.2.isFolder then walk d fuel (p ++ [child.1]) else [p ++ [child.1]]

def listFilesRecursive (d : Disk) (root : Path) : Except DiskError (List String) := do
  let _ ← d.list root
  return Text.sorted ((d.walk (d.entries.length + 1) root.bare).map (Path.relativeText root))

def isWheelName (name : String) : Bool := ".whl".toList.isSuffixOf name.toList

def pathPrecedes (a b : Path) : Bool := Text.precedes a.text b.text

/-- The wheels below a folder, sorted folder by folder from the innermost on. -/
def walkWheels (d : Disk) : Nat → Path → List Path
  | 0, _ => []
  | fuel + 1, p =>
    ((d.children p).flatMap fun child =>
      if child.2.isFolder then walkWheels d fuel (p ++ [child.1])
      else if isWheelName child.1 then [p ++ [child.1]]
      else []).mergeSort pathPrecedes

def findWheels (d : Disk) (root : Path) : Except DiskError (List Path) := do
  let _ ← d.list root
  return d.walkWheels (d.entries.length + 1) root.bare

end Wheelhouse.Disk
