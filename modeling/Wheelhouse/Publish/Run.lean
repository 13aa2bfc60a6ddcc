import Wheelhouse.Publish.Plan
import Wheelhouse.Store.Basic
import Wheelhouse.Workers

/-!
Publications. The stages of a destination are put one after the other; after a stage with a failure the
later ones are left out, so that no page is put before what it leads to. Other destinations go on. If
anything failed, the whole publication has failed, and says what is complete and what is not.
-/

set_option autoImplicit false

namespace Wheelhouse

structure PublishOptions where
  mainBranch : String
  workers : Number
  dryRun : Bool
  showsProgress : Bool

structure PublishResult where
  destinations : List String
  objects : List PlannedObject
  uploadedObjects : Nat
  dryRun : Bool

structure PublishState where
  uploaded : Nat
  failed : List (String × Failure)
  completed : List String
  incomplete : List String

namespace Publish

def putObject (store : ObjectStore) (total : Nat) (shows : Bool) (s : PublishState)
    (o : PlannedObject) : Job PublishState := do
  match ← Job.outcome (store.putFile o.key o.file (some (ObjectKey.contentType o.key))) with
  | .ok _ =>
    let uploaded := s.uploaded + 1
    if shows then Job.record (.progress (.objects uploaded total o.key))
    return { s with uploaded }
  | .error e =>
    Job.error "객체 업로드 실패" [("key", .string o.key), ("error", .string e.message)]
    return { s with failed := s.failed ++ [(o.key, e)] }

def putStage (store : ObjectStore) (total : Nat) (shows : Bool) :
    PublishState → List PlannedObject → Job PublishState
  | s, [] => return s
  | s, o :: rest => do
    putStage store total shows (← putObject store total shows s o) rest

/-- Puts stages until one has a failure; the answer says whether all were put. -/
def putStages (store : ObjectStore) (total : Nat) (shows : Bool) (destination : String) :
    PublishState → List (List PlannedObject) → Job (PublishState × Bool)
  | s, [] => return (s, true)
  | s, stage :: rest => do
    let s' ← putStage store total shows s stage
    -- A later stage links to this one, so it is put only if nothing here failed.
    if s'.failed.length = s.failed.length then
      putStages store total shows destination s' rest
    else
      unless rest.isEmpty do
        Job.error "업로드 실패로 상위 인덱스 업로드 생략"
          [("prefix", .string destination), ("skipped", .number (.ofNat rest.length))]
      return (s', false)

def putPlans (store : ObjectStore) (total : Nat) (shows : Bool) :
    PublishState → List DestinationPlan → Job PublishState
  | s, [] => return s
  | s, plan :: rest => do
    let (s', isComplete) ← putStages store total shows plan.destination s plan.stages
    if isComplete then
      Job.info "prefix 업로드 완료"
        [("prefix", .string plan.destination),
          ("objects", .number (.ofNat (DestinationPlan.objects plan).length))]
      putPlans store total shows { s' with completed := s'.completed ++ [plan.destination] } rest
    else
      putPlans store total shows { s' with incomplete := s'.incomplete ++ [plan.destination] } rest

def execute (store : ObjectStore) (shows : Bool) (plans : List DestinationPlan) : Job PublishResult := do
  let destinations := plans.map (·.destination)
  let all := objects plans
  let s ← putPlans store all.length shows ⟨0, [], [], []⟩ plans
  if !s.failed.isEmpty then
    throw (.publication (Text.sorted (s.failed.map (·.1))) s.completed s.incomplete
      (s.failed.getLast?.map fun f => f.2.message))
  Job.info "업로드 완료"
    [("prefixes", .array (destinations.map .string)), ("uploadedObjects", .number (.ofNat s.uploaded))]
  return ⟨destinations, all, s.uploaded, false⟩

structure Sources where
  archives : List String
  indexFiles : List String

def gather (wheels index : Path) (scope : PublishScope) (mainBranch : String) :
    Job (List String × Sources) := do
  unless ← Job.has wheels do throw (.missing "wheel 디렉토리" wheels.text none)
  let root := index.child "index.html"
  unless ← Job.has root do throw (.missing "인덱스 트리" root.text none)
  let destinations ← Job.ofExcept (scope.destinations mainBranch)
  let archives ← Job.look fun d => uploadable d wheels
  let indexFiles ← Job.look fun d => d.listFilesRecursive index
  return (destinations, ⟨archives, indexFiles⟩)

def plan (remote : Remote) (wheels index : Path) (destinations : List String) (sources : Sources) :
    List DestinationPlan :=
  destinations.map (planFor remote.scope wheels index sources.archives (byDepth sources.indexFiles))

def run (wheels index : Path) (remote : Remote) (scope : PublishScope) (options : PublishOptions) :
    Job PublishResult := do
  let (destinations, sources) ← gather wheels index scope options.mainBranch
  let plans := plan remote wheels index destinations sources
  Job.info "업로드 시작"
    [("remote", .string remote.store.description), ("prefixes", .array (destinations.map .string)),
      ("archives", .number (.ofNat sources.archives.length)),
      ("indexFiles", .number (.ofNat sources.indexFiles.length)), ("dryRun", .bool options.dryRun)]
  if options.dryRun then return ⟨destinations, objects plans, 0, true⟩
  Job.ofExcept (Workers.check options.workers)
  execute remote.store options.showsProgress plans

end Publish

end Wheelhouse
