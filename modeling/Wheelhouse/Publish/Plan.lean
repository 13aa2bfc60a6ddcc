import Wheelhouse.Disk.Walk
import Wheelhouse.Package.Archive
import Wheelhouse.Publish.Scope
import Wheelhouse.Store.Key

/-!
Plans of publications. For each destination the archives come first, and then the pages of the index
from the deepest on, so that a page is put after everything it leads to. The root page is last.
-/

set_option autoImplicit false

namespace Wheelhouse

structure PlannedObject where
  destination : String
  key : String
  file : Path
  deriving DecidableEq

structure DestinationPlan where
  destination : String
  stages : List (List PlannedObject)

namespace Publish

def depth (file : String) : Nat := file.toList.count '/'

def depths (files : List String) : List Nat :=
  ((files.map depth).foldr (fun n seen => if seen.contains n then seen else n :: seen) []).mergeSort
    fun a b => b ≤ a

def byDepth (files : List String) : List (List String) :=
  (depths files).map fun n => files.filter fun f => depth f = n

def uploadable (d : Disk) (folder : Path) : Except DiskError (List String) := do
  return (← d.listFiles folder).filter fun f => (Archive.parse? f).isSome

def object (scope destination : String) (folder : Path) (file : String) : PlannedObject :=
  ⟨destination, ObjectKey.join [scope, destination, file], Path.descend folder.bare (Path.segments file)⟩

def planFor (scope : String) (wheels index : Path) (archives : List String)
    (levels : List (List String)) (destination : String) : DestinationPlan :=
  { destination
    stages := archives.map (object scope destination wheels) ::
      levels.map fun level => level.map (object scope destination index) }

def DestinationPlan.objects (p : DestinationPlan) : List PlannedObject := p.stages.flatten

/-- The objects of all plans in the order in which they are put. -/
def objects (plans : List DestinationPlan) : List PlannedObject :=
  plans.flatMap DestinationPlan.objects

end Publish

end Wheelhouse
