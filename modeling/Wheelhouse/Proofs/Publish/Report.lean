import Wheelhouse.Proofs.Publish.Planned
import Wheelhouse.Proofs.Publish.Rounds
import Wheelhouse.Store.Folder

/-!
What a publication reports. What it says in the end about failed keys, complete and incomplete destinations and
numbers of objects is what the logs of its visits show. A publication that fails for another reason puts nothing,
and a dry run says beforehand what a publication without failures will put.
-/

set_option autoImplicit false

namespace Wheelhouse.Publish

/-- What is said in the end. -/
def conclude (plans : List DestinationPlan) (s : PublishState) : Job PublishResult := do
  let destinations := plans.map (·.destination)
  if !s.failed.isEmpty then
    throw (.publication (Text.sorted (s.failed.map (·.1))) s.completed s.incomplete
      (s.failed.getLast?.map fun f => f.2.message))
  Job.info "업로드 완료"
    [("prefixes", .array (destinations.map .string)), ("uploadedObjects", .number (.ofNat s.uploaded))]
  return ⟨destinations, objects plans, s.uploaded, false⟩

theorem execute_eq (store : ObjectStore) (shows : Bool) (plans : List DestinationPlan) :
    execute store shows plans = (do
      let s ← putPlans store (objects plans).length shows ⟨0, [], [], []⟩ plans
      conclude plans s) := rfl

/-- Whether a failure says that puts have failed. -/
def IsPublication (e : Failure) : Prop :=
  ∃ keys completed incomplete cause, e = .publication keys completed incomplete cause

/-- What is to be said of visits. A dry run and a publication that fails before its first put have none. -/
def IsReport (dryRun : Bool) (visits : List Visit) : EStateM.Result Failure Workspace PublishResult → Prop
  | .ok result _ => result.dryRun = dryRun ∧ refusedKeys visits = [] ∧
      if dryRun then visits = [] ∧ result.uploadedObjects = 0
      else
        result.destinations = visits.map Visit.destination ∧ result.objects = visits.flatMap Visit.objects ∧
          result.uploadedObjects = result.objects.length
  | .error (.publication keys completed incomplete _) _ => refusedKeys visits ≠ [] ∧
      keys = Text.sorted (refusedKeys visits) ∧ completed = completeOf visits ∧ incomplete = incompleteOf visits
  | .error _ _ => visits = []

section

variable {s : PublishState} {visits : List Visit}

theorem refused_of_refusedKeys (none : refusedKeys visits = []) {v : Visit} (inside : v ∈ visits) : refused v.log = [] :=
  List.map_eq_nil_iff.1 (List.flatMap_eq_nil_iff.1 none v inside)

-- If nothing has been refused, as many objects have been stored as there are in the plans.
theorem Sums.stored_length (h : Sums ⟨0, [], [], []⟩ visits s) (none : refusedKeys visits = []) :
    (visits.flatMap fun v => stored v.log).length = (visits.flatMap Visit.objects).length := by
  have each : visits.map (fun v => (stored v.log).length) = visits.map fun v => v.objects.length := by
    refine List.map_congr_left fun v inside => ?_
    exact ((h.attempted v inside).stored_perm_iff.2 (refused_of_refusedKeys none inside)).length_eq
  simp only [List.length_flatMap, each]

theorem isReport_conclude (h : Sums ⟨0, [], [], []⟩ visits s) (w : Workspace) :
    IsReport false visits (conclude (visits.map Visit.plan) s w) := by
  have keys : s.failed.map Prod.fst = refusedKeys visits := by simpa using h.failed
  unfold conclude
  by_cases none : s.failed = []
  · have free : refusedKeys visits = [] := by rw [← keys, none, List.map_nil]
    have uploaded : s.uploaded = (visits.flatMap Visit.objects).length := by
      rw [h.uploaded, ← h.stored_length free, Nat.zero_add]
    have whole : objects (visits.map Visit.plan) = visits.flatMap Visit.objects := by
      rw [objects, List.flatMap_map]
      rfl
    rw [none]
    refine ⟨rfl, free, ?_⟩
    simp only [Bool.false_eq_true, if_false, whole]
    exact ⟨by rw [List.map_map]; rfl, trivial, uploaded⟩
  · have failed : (!s.failed.isEmpty) = true := by simpa using none
    simp only [failed, if_true]
    refine ⟨?_, ?_, ?_, ?_⟩
    · rw [← keys]
      simpa using none
    · rw [← keys]
    · simpa using h.completed
    · simpa using h.incomplete

end

section

variable (wheels index : Path) (remote : Remote) (scope : PublishScope) (options : PublishOptions)

def starting (destinations : List String) (sources : Sources) : Event :=
  .notice ⟨.info, "업로드 시작", [("remote", .string remote.store.description),
    ("prefixes", .array (destinations.map .string)), ("archives", .number (.ofNat sources.archives.length)),
    ("indexFiles", .number (.ofNat sources.indexFiles.length)), ("dryRun", .bool options.dryRun)]⟩

def announce (found : List String × Sources) : Job (List DestinationPlan) := do
  Job.record (starting remote options found.1 found.2)
  unless options.dryRun do Job.ofExcept (Workers.check options.workers)
  return plan remote wheels index found.1 found.2

/-- What is done before the first put. -/
def prepare : Job (List DestinationPlan) :=
  gather wheels index scope options.mainBranch >>= announce wheels index remote options

/-- The ways in which a publication can go when its puts are spread over workers. -/
inductive Publishes (w : Workspace) : List Visit → EStateM.Result Failure Workspace PublishResult → Prop
  | unprepared {e : Failure} {v : Workspace} (failed : prepare wheels index remote scope options w = .error e v) :
      Publishes w [] (.error e v)
  | planned {plans : List DestinationPlan} {v : Workspace}
      (prepared : prepare wheels index remote scope options w = .ok plans v) (dry : options.dryRun = true) :
      Publishes w [] (.ok ⟨plans.map (·.destination), objects plans, 0, true⟩ v)
  | performed {visits : List Visit} {v v' : Workspace} {s : PublishState}
      (prepared : prepare wheels index remote scope options w = .ok (visits.map Visit.plan) v)
      (wet : options.dryRun = false)
      (rounds : Rounds remote.store (objects (visits.map Visit.plan)).length options.showsProgress ⟨0, [], [], []⟩ v
        visits s v') :
      Publishes w visits (conclude (visits.map Visit.plan) s v')

end

section

variable {wheels index : Path} {remote : Remote} {scope : PublishScope} {options : PublishOptions} {w v : Workspace}
  {destinations : List String} {sources : Sources} {visits : List Visit} {plans : List DestinationPlan} {e : Failure}

theorem destination_plan : (plan remote wheels index destinations sources).map (·.destination) = destinations := by
  simp [plan, planFor, Function.comp_def]

theorem check_of_isGood {n : Number} (good : Workers.isGood n = true) : Workers.check n = .ok () := if_pos good

variable (wheels index remote options) in
theorem announce_run (found : List String × Sources) (w : Workspace) :
    announce wheels index remote options found w =
      if options.dryRun = true ∨ Workers.isGood options.workers = true then
        .ok (plan remote wheels index found.1 found.2) (w.noting (starting remote options found.1 found.2))
      else .error .workers (w.noting (starting remote options found.1 found.2)) := by
  unfold announce
  cases options.dryRun with
  | true => rfl
  | false =>
    by_cases good : Workers.isGood options.workers = true
    · simp only [check_of_isGood good, good, or_true, if_true]
      rfl
    · simp only [Workers.check, good, Bool.false_eq_true, or_false, if_false]
      rfl

theorem prepare_ok_iff : prepare wheels index remote scope options w = .ok plans v ↔ ∃ destinations sources u,
    gather wheels index scope options.mainBranch w = .ok (destinations, sources) u ∧
      (options.dryRun = true ∨ Workers.isGood options.workers = true) ∧
      plans = plan remote wheels index destinations sources ∧
      v = u.noting (starting remote options destinations sources) := by
  rw [prepare, Job.bind_ok_iff]
  constructor
  · rintro ⟨⟨destinations, sources⟩, u, gathered, announced⟩
    rw [announce_run] at announced
    split at announced
    · rename_i good
      cases announced
      exact ⟨destinations, sources, u, gathered, good, rfl, rfl⟩
    · cases announced
  · rintro ⟨destinations, sources, u, gathered, good, rfl, rfl⟩
    exact ⟨(destinations, sources), u, gathered, by rw [announce_run, if_pos good]⟩

theorem run_eq : run wheels index remote scope options =
    prepare wheels index remote scope options >>= fun plans =>
      if options.dryRun then pure ⟨plans.map (·.destination), objects plans, 0, true⟩
      else execute remote.store options.showsProgress plans := by
  funext w
  rw [prepare, bind_assoc]
  unfold run
  cases gathered : gather wheels index scope options.mainBranch w with
  | error e v => rw [Job.bind_error gathered, Job.bind_error gathered]
  | ok found v =>
    obtain ⟨destinations, sources⟩ := found
    rw [Job.bind_ok gathered, Job.bind_ok gathered]
    have announced := announce_run wheels index remote options (destinations, sources) v
    cases dry : options.dryRun with
    | true =>
      simp only [dry, true_or, if_true] at announced
      rw [Job.bind_ok announced]
      simp only [dry, if_true, destination_plan, starting]
      rfl
    | false =>
      by_cases good : Workers.isGood options.workers = true
      · simp only [good, or_true, if_true] at announced
        rw [Job.bind_ok announced]
        simp only [dry, Bool.false_eq_true, if_false, check_of_isGood good, starting]
        rfl
      · simp only [good, dry, Bool.false_eq_true, or_false, if_false] at announced
        rw [Job.bind_error announced]
        simp only [dry, Bool.false_eq_true, if_false, Workers.check, good, starting]
        rfl

-- Before the first put nothing is asked of the store.
theorem prepare_store {store : ObjectStore} (same : store.description = remote.store.description) :
    prepare wheels index ⟨store, remote.scope⟩ scope options = prepare wheels index remote scope options := by
  unfold prepare announce starting
  rw [same]
  rfl

theorem destinations_error {mainBranch : String} (refused : scope.destinations mainBranch = .error e) :
    ∃ message details, e = .configuration message details := by
  unfold PublishScope.destinations at refused
  cases commit : PublishScope.isSegment (Text.trimmed scope.commit) with
  | false =>
    simp only [commit, Bool.not_false, if_true] at refused
    split at refused <;> cases refused <;> exact ⟨_, _, rfl⟩
  | true =>
    simp only [commit, Bool.not_true, Bool.false_eq_true, if_false] at refused
    cases release : scope.isRelease with
    | false =>
      simp only [release, Bool.false_eq_true, if_false] at refused
      split at refused <;> cases refused
    | true =>
      cases version : PublishScope.isSegment ((scope.version.map Text.trimmed).getD "") with
      | false =>
        simp only [release, version, Bool.not_false, if_true] at refused
        split at refused <;> cases refused <;> exact ⟨_, _, rfl⟩
      | true =>
        simp only [release, version, Bool.not_true, Bool.false_eq_true, if_false, if_true] at refused
        split at refused <;> cases refused

/-- Why a publication may fail before its first put. -/
inductive IsEarly : Failure → Prop
  | missing {resource location : String} {wording : Option String} : IsEarly (.missing resource location wording)
  | configuration {message : String} {details : Option Members} : IsEarly (.configuration message details)
  | disk {x : DiskError} : IsEarly (.disk x)
  | workers : IsEarly .workers

theorem IsEarly.not_isPublication (early : IsEarly e) : ¬IsPublication e := by
  rintro ⟨_, _, _, _, rfl⟩
  cases early

theorem isEarly_of_gather {mainBranch : String} (failed : gather wheels index scope mainBranch w = .error e v) :
    IsEarly e := by
  unfold gather at failed
  rw [Job.bind_ok (Job.has_run wheels w)] at failed
  by_cases there : w.disk.has wheels = true
  · simp only [there, if_true] at failed
    rw [Job.bind_ok (Job.has_run _ w)] at failed
    by_cases root : w.disk.has (index.child "index.html") = true
    · simp only [root, if_true] at failed
      rcases Job.bind_error_iff.1 failed with refused | ⟨destinations, u, _, failed⟩
      · obtain ⟨_, _, rfl⟩ := destinations_error (Job.ofExcept_error_iff.1 refused).1
        exact .configuration
      rcases Job.bind_error_iff.1 failed with unread | ⟨archives, u', _, failed⟩
      · obtain ⟨_, _, rfl, _⟩ := Job.look_error_iff.1 unread
        exact .disk
      rcases Job.bind_error_iff.1 failed with unread | ⟨files, u'', _, failed⟩
      · obtain ⟨_, _, rfl, _⟩ := Job.look_error_iff.1 unread
        exact .disk
      · cases failed
    · simp only [root, Bool.false_eq_true, if_false] at failed
      cases failed
      exact .missing
  · simp only [there, Bool.false_eq_true, if_false] at failed
    cases failed
    exact .missing

theorem isEarly_of_prepare (failed : prepare wheels index remote scope options w = .error e v) : IsEarly e := by
  rcases Job.bind_error_iff.1 failed with failed | ⟨found, u, _, failed⟩
  · exact isEarly_of_gather failed
  · rw [announce_run] at failed
    split at failed
    · cases failed
    · cases failed
      exact .workers

-- Even a plan without archives and pages has the stage of its archives.
theorem stages_ne_nil (prepared : prepare wheels index remote scope options w = .ok plans v) :
    ∀ p ∈ plans, p.stages ≠ [] := by
  obtain ⟨destinations, sources, _, _, _, rfl, _⟩ := prepare_ok_iff.1 prepared
  intro p inside
  obtain ⟨destination, _, rfl⟩ := List.mem_map.1 inside
  exact List.cons_ne_nil _ _

theorem isReport_of_publishes {result : EStateM.Result Failure Workspace PublishResult}
    (h : Publishes wheels index remote scope options w visits result) :
    (∀ v ∈ visits, Attempted 0 v.plan.stages v.log) ∧ IsReport options.dryRun visits result := by
  cases h with
  | @unprepared e v failed =>
    refine ⟨by simp, ?_⟩
    have other := (isEarly_of_prepare failed).not_isPublication
    cases e with
    | publication => exact absurd ⟨_, _, _, _, rfl⟩ other
    | _ => rfl
  | planned _ dry =>
    rw [dry]
    exact ⟨by simp, rfl, rfl, rfl, rfl⟩
  | performed prepared wet rounds =>
    have sums := rounds.sums fun v inside => stages_ne_nil prepared _ (List.mem_map_of_mem inside)
    rw [wet]
    exact ⟨sums.attempted, isReport_conclude sums _⟩

-- The program is one of the ways to publish: a single worker, who puts the objects in the order of the plan.
theorem run_publishes (wheels index : Path) (remote : Remote) (scope : PublishScope) (options : PublishOptions)
    (w : Workspace) :
    ∃ visits, Publishes wheels index remote scope options w visits (run wheels index remote scope options w) ∧
      ∀ v ∈ visits, ∃ os, os <+: v.objects ∧ OneByOne os v.log := by
  rw [run_eq]
  cases prepared : prepare wheels index remote scope options w with
  | error e v =>
    rw [Job.bind_error prepared]
    exact ⟨[], .unprepared prepared, by simp⟩
  | ok plans v =>
    rw [Job.bind_ok prepared]
    cases dry : options.dryRun with
    | true => exact ⟨[], .planned prepared dry, by simp⟩
    | false =>
      obtain ⟨visits, s, v', puts, rfl, rounds, order⟩ := putPlans_rounds remote.store (objects plans).length
        options.showsProgress plans (stages_ne_nil prepared) ⟨0, [], [], []⟩ v
      have performed := Publishes.performed prepared dry rounds
      rw [if_neg (by simp), execute_eq, Job.bind_ok puts]
      exact ⟨visits, performed, order⟩

theorem conclude_error {s : PublishState} (failed : conclude plans s w = .error e v) : IsPublication e := by
  unfold conclude at failed
  by_cases none : (!s.failed.isEmpty) = true
  · simp only [none, if_true] at failed
    cases failed
    exact ⟨_, _, _, _, rfl⟩
  · simp only [none, Bool.false_eq_true, if_false] at failed
    cases failed

theorem Publishes.error_cases {result : EStateM.Result Failure Workspace PublishResult}
    (h : Publishes wheels index remote scope options w visits result) (failed : result = .error e v) :
    prepare wheels index remote scope options w = .error e v ∨ IsPublication e := by
  cases h with
  | unprepared unprepared =>
    cases failed
    exact .inl unprepared
  | planned => cases failed
  | performed => exact .inr (conclude_error failed)

-- Visits have the plans that the site gives.
theorem Publishes.planned_of_gather {result : EStateM.Result Failure Workspace PublishResult}
    (h : Publishes wheels index remote scope options w visits result) (wet : options.dryRun = false)
    (good : Workers.isGood options.workers = true)
    (gathered : gather wheels index scope options.mainBranch w = .ok (destinations, sources) v) :
    visits.map Visit.plan = plan remote wheels index destinations sources ∧
      ∀ e v, result = .error e v → IsPublication e := by
  have ready : prepare wheels index remote scope options w = .ok (plan remote wheels index destinations sources)
      (v.noting (starting remote options destinations sources)) :=
    prepare_ok_iff.2 ⟨destinations, sources, v, gathered, .inr good, rfl, rfl⟩
  have fails : ∀ e v, result = .error e v → IsPublication e := by
    intro e v failed
    refine (h.error_cases failed).resolve_left fun unprepared => ?_
    cases unprepared.symm.trans ready
  refine ⟨?_, fails⟩
  cases h with
  | unprepared unprepared => cases unprepared.symm.trans ready
  | planned _ dry => cases dry.symm.trans wet
  | performed prepared =>
    injection prepared.symm.trans ready

theorem conclude_ok {s : PublishState} {result : PublishResult} (returned : conclude plans s w = .ok result v) :
    result = ⟨plans.map (·.destination), objects plans, s.uploaded, false⟩ := by
  unfold conclude at returned
  by_cases none : (!s.failed.isEmpty) = true
  · simp only [none, if_true] at returned
    cases returned
  · simp only [none, Bool.false_eq_true, if_false] at returned
    cases returned
    rfl

-- A dry run with the same inputs has said the same before.
theorem Publishes.dry {result : EStateM.Result Failure Workspace PublishResult} {made : PublishResult}
    (h : Publishes wheels index remote scope options w visits result) (wet : options.dryRun = false)
    (returned : result = .ok made v) :
    ∃ v', run wheels index remote scope { options with dryRun := true } w =
      .ok { made with uploadedObjects := 0, dryRun := true } v' := by
  cases h with
  | unprepared => cases returned
  | planned _ dry => cases dry.symm.trans wet
  | performed prepared =>
    obtain ⟨destinations, sources, u, gathered, _, planned, _⟩ := prepare_ok_iff.1 prepared
    have ready : prepare wheels index remote scope { options with dryRun := true } w = .ok (visits.map Visit.plan)
        (u.noting (starting remote { options with dryRun := true } destinations sources)) :=
      prepare_ok_iff.2 ⟨destinations, sources, u, gathered, .inl rfl, planned, rfl⟩
    rw [run_eq, Job.bind_ok ready, conclude_ok returned]
    exact ⟨_, rfl⟩

-- A worker who has had no failure has put everything.
theorem oneByOne_visits (attempted : ∀ v ∈ visits, Attempted 0 v.plan.stages v.log) (none : refusedKeys visits = [])
    (order : ∀ v ∈ visits, ∃ os, os <+: v.objects ∧ OneByOne os v.log) :
    OneByOne (visits.flatMap Visit.objects) (visits.flatMap Visit.log) := by
  have whole : ∀ v ∈ visits, OneByOne v.objects v.log := by
    intro v inside
    obtain ⟨os, taken, alone⟩ := order v inside
    have all := (attempted v inside).begun_perm (refused_of_refusedKeys none inside)
    rw [alone.begun_eq] at all
    exact taken.eq_of_length all.length_eq ▸ alone
  clear attempted none order
  induction visits with
  | nil => exact .nil
  | cons v visits ih =>
    exact (whole v List.mem_cons_self).append (ih fun u inside => whole u (List.mem_cons_of_mem _ inside))

-- Without a put the store does not matter.
theorem run_store {store : ObjectStore} (same : store.description = remote.store.description)
    (early : options.dryRun = true ∨ ∃ e v, run wheels index remote scope options w = .error e v ∧ IsEarly e) :
    run wheels index ⟨store, remote.scope⟩ scope options w = run wheels index remote scope options w := by
  cases prepared : prepare wheels index remote scope options w with
  | error e v => rw [run_eq, run_eq, prepare_store same, Job.bind_error prepared, Job.bind_error prepared]
  | ok plans v =>
    have dry : options.dryRun = true := by
      refine early.resolve_right ?_
      rintro ⟨e, u, failed, early⟩
      obtain ⟨visits, way, _⟩ := run_publishes wheels index remote scope options w
      rcases way.error_cases failed with unprepared | publication
      · cases prepared.symm.trans unprepared
      · exact early.not_isPublication publication
    rw [run_eq, run_eq, prepare_store same, Job.bind_ok prepared, Job.bind_ok prepared, if_pos dry, if_pos dry]

/-- A publication reports exactly what happened, however its puts are spread over workers and whatever the store
refuses; the program publishes in such a way, with a single worker. A dry run, and a publication that fails before
its first put, ask nothing of the store, and a dry run foretells what is put if nothing fails. -/
theorem run_reports (wheels index : Path) (remote : Remote) (scope : PublishScope) (options : PublishOptions)
    (w : Workspace) :
    (∀ visits result, Publishes wheels index remote scope options w visits result →
      (∀ v ∈ visits, Attempted 0 v.plan.stages v.log) ∧ IsReport options.dryRun visits result) ∧
    (∀ destinations, w.disk.find? wheels.bare = some .folder → w.disk.file? (index.bare ++ ["index.html"]) ≠ none →
      scope.destinations options.mainBranch = .ok destinations → ∃ sources,
        uploadable w.disk wheels = .ok sources.archives ∧ w.disk.listFilesRecursive index = .ok sources.indexFiles ∧
        (options.dryRun = false → Workers.isGood options.workers = true → ∀ visits result,
          Publishes wheels index remote scope options w visits result →
            visits.map Visit.plan = plan remote wheels index destinations sources ∧
            ∀ e v, result = .error e v → IsPublication e)) ∧
    (∃ visits, Publishes wheels index remote scope options w visits (run wheels index remote scope options w) ∧
      (∀ v ∈ visits, ∃ os, os <+: v.objects ∧ OneByOne os v.log) ∧
      (options.dryRun = false → ∀ made v, run wheels index remote scope options w = .ok made v →
        OneByOne made.objects (visits.flatMap Visit.log))) ∧
    (∀ store : ObjectStore, store.description = remote.store.description →
      (options.dryRun = true ∨ ∃ e v, run wheels index remote scope options w = .error e v ∧ IsEarly e) →
      run wheels index ⟨store, remote.scope⟩ scope options w = run wheels index remote scope options w) ∧
    (options.dryRun = false → ∀ visits made v, Publishes wheels index remote scope options w visits (.ok made v) →
      ∃ v', run wheels index remote scope { options with dryRun := true } w =
        .ok { made with uploadedObjects := 0, dryRun := true } v') := by
  refine ⟨fun visits result way => isReport_of_publishes way, ?_, ?_, fun store same early => run_store same early,
    fun wet visits made v way => way.dry wet rfl⟩
  · intro destinations there root accepted
    obtain ⟨sources, archives, pages, gathered⟩ := gather_of_site there root accepted
    exact ⟨sources, archives, pages, fun wet good visits result way => way.planned_of_gather wet good gathered⟩
  · obtain ⟨visits, way, order⟩ := run_publishes wheels index remote scope options w
    refine ⟨visits, way, order, fun wet made v returned => ?_⟩
    obtain ⟨attempted, report⟩ := isReport_of_publishes way
    rw [returned, wet] at report
    obtain ⟨_, none, _, objects, _⟩ := report
    exact objects ▸ oneByOne_visits attempted none order

end

section Refused

-- A site of one archive and one page, published to two destinations in a folder, and the page is refused at the
-- first of them.
def refusedDisk : Disk :=
  (((Disk.empty.put ["w"] .folder).put ["w", "a-1.zip"] (.file (Text.encode "1"))).put ["i"] .folder).put
    ["i", "index.html"] (.file (Text.encode "2"))

def refusedWorkspace : Workspace := ⟨refusedDisk, [], [], [], [], 0⟩

def refusingRemote : Remote :=
  ⟨(FolderStore.store ["s"]).refusing fun key => key = "c/index.html", ""⟩

def refusedScope : PublishScope := ⟨"c", "main", false, none⟩

def refusedOptions : PublishOptions := ⟨"main", .ofNat 8, false, false⟩

def refusedSources : Sources := ⟨["a-1.zip"], ["index.html"]⟩

def refusedPlans : List DestinationPlan :=
  [⟨"c", [[⟨"c", "c/a-1.zip", ["w", "a-1.zip"]⟩], [⟨"c", "c/index.html", ["i", "index.html"]⟩]]⟩,
    ⟨"nightly", [[⟨"nightly", "nightly/a-1.zip", ["w", "a-1.zip"]⟩],
      [⟨"nightly", "nightly/index.html", ["i", "index.html"]⟩]]⟩]

theorem refused_archives : uploadable refusedDisk ["w"] = .ok ["a-1.zip"] := by
  have there : refusedDisk.find? (Path.bare ["w"]) = some .folder := rfl
  have listed : refusedDisk.listFiles ["w"] = .ok ["a-1.zip"] := by
    rw [Disk.listFiles, Disk.list_of_find? there]
    change Except.ok (Text.sorted ["a-1.zip"]) = _
    simp [Text.sorted]
  have readable : (Archive.parse? "a-1.zip").isSome = true := by decide +kernel
  rw [uploadable, listed]
  change Except.ok (["a-1.zip"].filter fun f => (Archive.parse? f).isSome) = _
  rw [List.filter_singleton, readable]
  rfl

theorem refused_pages : refusedDisk.listFilesRecursive ["i"] = .ok ["index.html"] := by
  refine Disk.listFilesRecursive_ok_iff.2 ⟨rfl, ?_⟩
  change Text.sorted ["index.html"] = _
  simp [Text.sorted]

theorem refused_sources {sources : Sources} (archives : uploadable refusedDisk ["w"] = .ok sources.archives)
    (pages : refusedDisk.listFilesRecursive ["i"] = .ok sources.indexFiles) : sources = refusedSources := by
  obtain ⟨found, files⟩ := sources
  cases refused_archives.symm.trans archives
  cases refused_pages.symm.trans pages
  rfl

theorem refused_gathered : gather ["w"] ["i"] refusedScope "main" refusedWorkspace =
    .ok (["c", "nightly"], refusedSources) refusedWorkspace := by
  have there : refusedWorkspace.disk.find? (Path.bare ["w"]) = some .folder := rfl
  have root : refusedWorkspace.disk.file? (Path.bare ["i"] ++ ["index.html"]) ≠ none := by decide
  obtain ⟨sources, archives, pages, gathered⟩ :=
    gather_of_site there root (show refusedScope.destinations "main" = .ok ["c", "nightly"] from rfl)
  rw [gathered, refused_sources archives pages]

theorem refused_prepared : prepare ["w"] ["i"] refusingRemote refusedScope refusedOptions refusedWorkspace =
    .ok (plan refusingRemote ["w"] ["i"] ["c", "nightly"] refusedSources)
      (refusedWorkspace.noting (starting refusingRemote refusedOptions ["c", "nightly"] refusedSources)) := by
  have good : Workers.isGood refusedOptions.workers = true := by decide +kernel
  exact prepare_ok_iff.2 ⟨["c", "nightly"], refusedSources, refusedWorkspace, refused_gathered, .inr good, rfl, rfl⟩

theorem refused_plan : plan refusingRemote ["w"] ["i"] ["c", "nightly"] refusedSources = refusedPlans := by
  have levels : byDepth ["index.html"] = [["index.html"]] := by simp [byDepth, depths, depth]
  have archive : object "" "c" ["w"] "a-1.zip" = ⟨"c", "c/a-1.zip", ["w", "a-1.zip"]⟩ := by decide +kernel
  have page : object "" "c" ["i"] "index.html" = ⟨"c", "c/index.html", ["i", "index.html"]⟩ := by decide +kernel
  have archive' : object "" "nightly" ["w"] "a-1.zip" = ⟨"nightly", "nightly/a-1.zip", ["w", "a-1.zip"]⟩ := by
    decide +kernel
  have page' : object "" "nightly" ["i"] "index.html" = ⟨"nightly", "nightly/index.html", ["i", "index.html"]⟩ := by
    decide +kernel
  have scope : refusingRemote.scope = "" := rfl
  simp [plan, planFor, refusedPlans, refusedSources, levels, archive, page, archive', page', scope]

-- The store after such a publication: without the page below the first destination, whole below the second one.
def IsPartly (d : Disk) : Prop :=
  d.file? ["s", "c", "a-1.zip"] = some (Text.encode "1") ∧ d.file? ["s", "c", "index.html"] = none ∧
    d.file? ["s", "nightly", "a-1.zip"] = some (Text.encode "1") ∧
    d.file? ["s", "nightly", "index.html"] = some (Text.encode "2")

instance (d : Disk) : Decidable (IsPartly d) := inferInstanceAs (Decidable (_ ∧ _ ∧ _ ∧ _))

theorem refused_put : ∃ s v,
    putPlans refusingRemote.store 4 false ⟨0, [], [], []⟩ refusedPlans
        (refusedWorkspace.noting (starting refusingRemote refusedOptions ["c", "nightly"] refusedSources)) = .ok s v ∧
      s.failed.map Prod.fst = ["c/index.html"] ∧ s.completed = ["nightly"] ∧ s.incomplete = ["c"] ∧ IsPartly v.disk := by
  have checked : (match putPlans refusingRemote.store 4 false ⟨0, [], [], []⟩ refusedPlans
      (refusedWorkspace.noting (starting refusingRemote refusedOptions ["c", "nightly"] refusedSources)) with
    | .ok s v => decide (s.failed.map Prod.fst = ["c/index.html"] ∧ s.completed = ["nightly"] ∧
        s.incomplete = ["c"] ∧ IsPartly v.disk)
    | .error _ _ => false) = true := by decide +kernel
  split at checked
  next s v put => exact ⟨s, v, put, of_decide_eq_true checked⟩
  next => cases checked

theorem refused_run : ∃ cause v, run ["w"] ["i"] refusingRemote refusedScope refusedOptions refusedWorkspace =
    .error (.publication ["c/index.html"] ["nightly"] ["c"] cause) v ∧ IsPartly v.disk := by
  rw [run_eq, Job.bind_ok refused_prepared, refused_plan, if_neg (by decide), execute_eq]
  obtain ⟨s, v, puts, failed, completed, incomplete, held⟩ := refused_put
  have some : (!s.failed.isEmpty) = true := by
    cases found : s.failed with
    | nil => simp [found] at failed
    | cons => rfl
  refine ⟨s.failed.getLast?.map fun f => f.2.message, v, ?_, held⟩
  refine (Job.bind_ok puts).trans ?_
  simp only [conclude, some, if_true, failed, completed, incomplete, Text.sorted, List.mergeSort_singleton]
  rfl

/-- The report of a publication that is refused one page: the store has everything else, the key is the one that
has been refused, and the other destination is complete. -/
theorem run_reports_refused : ∃ (visits : List Visit) (cause : Option String) (v : Workspace),
    run ["w"] ["i"] refusingRemote refusedScope refusedOptions refusedWorkspace =
        .error (.publication ["c/index.html"] ["nightly"] ["c"] cause) v ∧ IsPartly v.disk ∧
      Publishes ["w"] ["i"] refusingRemote refusedScope refusedOptions refusedWorkspace visits
        (.error (.publication ["c/index.html"] ["nightly"] ["c"] cause) v) ∧
      (∀ u ∈ visits, Attempted 0 u.plan.stages u.log) ∧ visits.map Visit.plan = refusedPlans ∧
      refusedKeys visits ≠ [] ∧ Text.sorted (refusedKeys visits) = ["c/index.html"] ∧
      completeOf visits = ["nightly"] ∧ incompleteOf visits = ["c"] ∧
      run ["w"] ["i"] ⟨FolderStore.store ["s"], ""⟩ refusedScope { refusedOptions with dryRun := true }
          refusedWorkspace =
        run ["w"] ["i"] refusingRemote refusedScope { refusedOptions with dryRun := true } refusedWorkspace := by
  obtain ⟨cause, v, ran, held⟩ := refused_run
  have good : Workers.isGood refusedOptions.workers = true := by decide +kernel
  obtain ⟨reports, plans, ⟨visits, way, _⟩, _⟩ :=
    run_reports ["w"] ["i"] refusingRemote refusedScope refusedOptions refusedWorkspace
  obtain ⟨_, _, _, independent, _⟩ :=
    run_reports ["w"] ["i"] refusingRemote refusedScope { refusedOptions with dryRun := true } refusedWorkspace
  obtain ⟨attempted, report⟩ := reports visits _ way
  have planned : visits.map Visit.plan = refusedPlans := by
    obtain ⟨sources, archives, pages, planned⟩ := plans ["c", "nightly"] rfl (by decide) rfl
    rw [(planned rfl good visits _ way).1, refused_sources archives pages, refused_plan]
  rw [ran] at way report
  obtain ⟨failed, keys, completed, incomplete⟩ := report
  exact ⟨visits, cause, v, ran, held, way, attempted, planned, failed, keys.symm, completed.symm, incomplete.symm,
    independent (FolderStore.store ["s"]) rfl (.inl rfl)⟩

end Refused

end Wheelhouse.Publish
