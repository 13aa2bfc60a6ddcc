import Wheelhouse.Proofs.Filter.Outcome
import Wheelhouse.Proofs.Package.VersionOrder

/-!
Which wheel is validated. The reported wheel is a highest one of the project among those that the collection
held when the run began, but its metadata are read when the duplicates have been removed. The two moments
agree when the project is not itself a wanted package with builds. If it is, the wheels of the project that
are left are its builds, and the reported one need not be among them.
-/

set_option autoImplicit false

namespace Wheelhouse.Filter

variable {custom all folder folder' : Path} {name project f : String} {names builds copies : List String}
variable {w w' : Workspace} {d d' : Disk} {archives : List Archive} {retained : List (String × List String)}

-- Whether a folder holds a wheel of a project.
structure HoldsWheel (d : Disk) (folder : Path) (project : String) (wheel : Archive) : Prop where
  parsed : Archive.parse? wheel.filename = some wheel
  isWheel : wheel.isWheel = true
  named : wheel.normalizedName = PackageName.normalize project
  there : d.file? (folder.bare ++ [wheel.filename]) ≠ none

/-- Whether a file is a wheel of a project in a folder that has a version which no other one there exceeds. -/
def IsHighestWheel (d : Disk) (folder : Path) (project f : String) : Prop :=
  ∃ wheel, wheel.filename = f ∧ HoldsWheel d folder project wheel ∧
    ∀ other, HoldsWheel d folder project other → Version.compareTexts other.version wheel.version ≠ .gt

theorem HoldsWheel.isArchiveOf {wheel : Archive} (holds : HoldsWheel d folder project wheel) :
    IsArchiveOf (PackageName.normalize project) wheel.filename :=
  ⟨wheel, holds.parsed, holds.named⟩

theorem holdsWheel_congr {wheel : Archive} (same : IsArchiveOf (PackageName.normalize project) wheel.filename →
      (d.file? (folder.bare ++ [wheel.filename]) ≠ none ↔ d'.file? (folder'.bare ++ [wheel.filename]) ≠ none)) :
    HoldsWheel d folder project wheel ↔ HoldsWheel d' folder' project wheel := by
  constructor
  · intro holds
    exact { holds with there := (same holds.isArchiveOf).1 holds.there }
  · intro holds
    exact { holds with there := (same holds.isArchiveOf).2 holds.there }

theorem isHighestWheel_congr
    (same : ∀ wheel, HoldsWheel d folder project wheel ↔ HoldsWheel d' folder' project wheel) :
    IsHighestWheel d folder project f ↔ IsHighestWheel d' folder' project f := by
  simp only [IsHighestWheel, same]

def wheelsOf (archives : List Archive) (project : String) : List Archive :=
  archives.filter fun a => a.isWheel && a.normalizedName = PackageName.normalize project

theorem mem_wheelsOf (copied : AreFiles d all copies) {wheel : Archive} :
    wheel ∈ wheelsOf (copies.filterMap Archive.parse?) project ↔ HoldsWheel d all project wheel := by
  have archive : wheel ∈ ofName (PackageName.normalize project) (copies.filterMap Archive.parse?) ↔ _ := mem_ofName
  rw [ofName, List.mem_filter, decide_eq_true_eq] at archive
  rw [wheelsOf, List.mem_filter, Bool.and_eq_true, decide_eq_true_eq]
  constructor
  · rintro ⟨inside, isWheel, named⟩
    obtain ⟨file, parsed, _⟩ := archive.1 ⟨inside, named⟩
    exact ⟨parsed, isWheel, named, (copied _).1 file⟩
  · intro holds
    have inside := archive.2 ⟨(copied _).2 holds.there, holds.parsed, holds.named⟩
    exact ⟨inside.1, holds.isWheel, holds.named⟩

theorem projectWheel?_cases (archives : List Archive) (project : String) :
    (projectWheel? archives project = none ∧ wheelsOf archives project = []) ∨
      ∃ wheel ∈ wheelsOf archives project, projectWheel? archives project = some wheel ∧
        ∀ other ∈ wheelsOf archives project, Version.compareTexts other.version wheel.version ≠ .gt := by
  have chosen : projectWheel? archives project =
      (Version.highest? ((wheelsOf archives project).map (·.version))).bind fun v =>
        (wheelsOf archives project).find? fun a => a.version = v := rfl
  by_cases empty : wheelsOf archives project = []
  · rw [empty] at chosen
    exact .inl ⟨chosen, empty⟩
  · obtain ⟨best, highest⟩ := Version.exists_highest? (show (wheelsOf archives project).map (·.version) ≠ [] by simpa)
    obtain ⟨inside, greatest⟩ := Version.greatest_of_highest? highest
    rw [highest, Option.bind_some] at chosen
    cases found : (wheelsOf archives project).find? fun a => a.version = best with
    | none =>
      obtain ⟨wheel, member, version⟩ := List.mem_map.1 inside
      simpa [version] using List.find?_eq_none.1 found wheel member
    | some wheel =>
      have version : wheel.version = best := by simpa using List.find?_some found
      refine .inr ⟨wheel, List.mem_of_find?_eq_some found, chosen.trans found, fun other member => ?_⟩
      rw [version]
      exact greatest _ (List.mem_map_of_mem member)

-- The wheel is chosen among those in the collection, and none is if there are none.
theorem projectWheel?_collected (copied : AreFiles d all copies) (project : String) :
    (projectWheel? (copies.filterMap Archive.parse?) project = none ∧ ∀ wheel, ¬HoldsWheel d all project wheel) ∨
      ∃ wheel, projectWheel? (copies.filterMap Archive.parse?) project = some wheel ∧
        IsHighestWheel d all project wheel.filename := by
  rcases projectWheel?_cases (copies.filterMap Archive.parse?) project with ⟨unchosen, empty⟩ | ⟨wheel, inside, chosen, highest⟩
  · refine .inl ⟨unchosen, fun wheel holds => ?_⟩
    have inside := (mem_wheelsOf copied).2 holds
    rw [empty] at inside
    exact List.not_mem_nil inside
  · exact .inr ⟨wheel, chosen, wheel, rfl, (mem_wheelsOf copied).1 inside,
      fun other holds => highest other ((mem_wheelsOf copied).2 holds)⟩

-- What a wheel declares whose metadata can be read.
def Declares (d : Disk) (wheel : Path) (declared : Dependencies) : Prop :=
  ∃ bytes text, d.readFile wheel = .ok bytes ∧ Metadata.find wheel bytes = .ok text ∧
    declared = Metadata.dependencies text

theorem read_ok_iff {wheel : Path} {declared : Dependencies} :
    Metadata.read wheel w = .ok declared w' ↔ Declares w.disk wheel declared ∧ w' = w := by
  rw [Metadata.read, Job.bind_ok (Job.has_run wheel w)]
  constructor
  · intro ran
    cases there : w.disk.has wheel with
    | false =>
      rw [there] at ran
      cases ran
    | true =>
      rw [there] at ran
      obtain ⟨bytes, u, looked, later⟩ := Job.bind_ok_iff.1 ran
      obtain ⟨read, rfl⟩ := Job.look_ok_iff.1 looked
      obtain ⟨text, v, parsed, ended⟩ := Job.bind_ok_iff.1 later
      obtain ⟨found, rfl⟩ := Job.ofExcept_ok_iff.1 parsed
      cases ended
      exact ⟨⟨bytes, text, read, found, rfl⟩, rfl⟩
  · rintro ⟨⟨bytes, text, read, found, rfl⟩, rfl⟩
    rw [(Disk.readFile_ok read).1]
    have looked : Job.readFile wheel w' = .ok bytes w' := Job.look_ok_iff.2 ⟨read, rfl⟩
    exact (Job.bind_ok looked).trans (Job.bind_ok (Job.ofExcept_ok_iff.2 ⟨found, rfl⟩))

/-- The packages that a validation has checked: the wanted ones with builds that are declared, in the order
in which they are wanted. -/
structure AreChecked (d : Disk) (custom : Path) (names : List String) (declared : Dependencies)
    (checked : List String) : Prop where
  sublist : checked.Sublist (targets names)
  mem_iff : ∀ name, name ∈ checked ↔
    name ∈ names.map PackageName.normalize ∧ HasBuild d custom name ∧ declared.lookup name ≠ none

theorem checkedNames_retained (declared : Dependencies) (c : Collections) (names : List String) :
    checkedNames declared (Filter.retained c names) = (targets names).filter fun name =>
      !(ofName name c.customArchives).isEmpty && (declared.lookup name).isSome := by
  rw [checkedNames, Filter.retained]
  induction targets names with
  | nil => rfl
  | cons name rest ih =>
    cases empty : (ofName name c.customArchives).isEmpty with
    | true =>
      simp only [List.filterMap_cons, List.filter_cons, empty, ite_true, Bool.not_true, Bool.false_and,
        Bool.false_eq_true, ite_false, ih]
    | false =>
      cases found : (declared.lookup name).isSome <;>
        simp only [List.filterMap_cons, List.filter_cons, List.map_cons, empty, found, ite_true, Bool.not_false,
          Bool.true_and, Bool.false_eq_true, ite_false, ih]

theorem areChecked_checkedNames (built : AreFiles d custom builds) (declared : Dependencies) :
    AreChecked d custom names declared
      (checkedNames declared (Filter.retained (collected custom all builds copies) names)) := by
  rw [checkedNames_retained]
  refine ⟨List.filter_sublist, fun name => ?_⟩
  have build : (!(ofName name (builds.filterMap Archive.parse?)).isEmpty) = true ↔ HasBuild d custom name := by
    rw [← hasBuild_iff built]
    simp
  rw [List.mem_filter, mem_targets, Bool.and_eq_true]
  change _ ∧ (!(ofName name (builds.filterMap Archive.parse?)).isEmpty) = true ∧ _ ↔ _
  rw [build, Option.isSome_iff_ne_none]

theorem validate_cases {v : Validation} (ran : validate all archives project retained w = .ok v w') :
    (projectWheel? archives project = none ∧ v = ⟨none, [], []⟩) ∨
      ∃ wheel, projectWheel? archives project = some wheel ∧
        ((∃ declared, Declares w.disk (all.child wheel.filename) declared ∧
            v = ⟨some wheel.filename, checkedNames declared retained, mismatches declared retained⟩) ∨
          ((∀ declared, ¬Declares w.disk (all.child wheel.filename) declared) ∧
            v = ⟨some wheel.filename, [], []⟩)) := by
  unfold validate at ran
  cases found : projectWheel? archives project with
  | none =>
    rw [found] at ran
    cases ran
    exact .inl ⟨rfl, rfl⟩
  | some wheel =>
    simp only [found] at ran
    refine .inr ⟨wheel, rfl, ?_⟩
    cases read : Metadata.read (all.child wheel.filename) w with
    | ok declared u =>
      rw [Job.bind_ok (Job.outcome_ok read)] at ran
      refine .inl ⟨declared, (read_ok_iff.1 read).1, ?_⟩
      simp only at ran
      split at ran <;> cases ran <;> rfl
    | error e u =>
      rw [Job.bind_ok (Job.outcome_error read)] at ran
      cases ran
      refine .inr ⟨fun declared declares => ?_, rfl⟩
      cases read.symm.trans (read_ok_iff.2 ⟨declares, rfl⟩)

theorem Declares.unique {wheel : Path} {declared declared' : Dependencies} (h : Declares d wheel declared)
    (h' : Declares d wheel declared') : declared = declared' := by
  obtain ⟨bytes, text, read, found, rfl⟩ := h
  obtain ⟨bytes', text', read', found', rfl⟩ := h'
  cases read.symm.trans read'
  cases found.symm.trans found'
  rfl

-- The wheel that is reported depends on what the collection held when it was listed.
theorem reported_of_validate {v : Validation} (copied : AreFiles d all copies)
    (ran : validate all (copies.filterMap Archive.parse?) project retained w = .ok v w') :
    (v.projectWheel = none ↔ ∀ wheel, ¬HoldsWheel d all project wheel) ∧
      ∀ f, v.projectWheel = some f → IsHighestWheel d all project f := by
  rcases projectWheel?_collected copied project with ⟨unchosen, absent⟩ | ⟨wheel, chosen, highest⟩
  · rcases validate_cases ran with ⟨_, rfl⟩ | ⟨_, chosen, _⟩
    · exact ⟨iff_of_true rfl absent, fun f reported => by cases reported⟩
    · cases unchosen.symm.trans chosen
  · have reported : v.projectWheel = some wheel.filename := by
      rcases validate_cases ran with ⟨unchosen, _⟩ | ⟨_, chosen', ⟨_, _, rfl⟩ | ⟨_, rfl⟩⟩
      · cases unchosen.symm.trans chosen
      · cases chosen.symm.trans chosen'
        rfl
      · cases chosen.symm.trans chosen'
        rfl
    constructor
    · rw [reported]
      refine iff_of_false (by simp) fun absent => ?_
      obtain ⟨_, _, holds, _⟩ := highest
      exact absent _ holds
    · intro f same
      cases reported.symm.trans same
      exact highest

-- What has been checked depends on what the reported wheel declares when it is read.
theorem checked_of_validate {v : Validation} (ran : validate all archives project retained w = .ok v w')
    (reported : v.projectWheel = some f) :
    (∀ declared, Declares w.disk (all.child f) declared → v.checked = checkedNames declared retained) ∧
      ((∀ declared, ¬Declares w.disk (all.child f) declared) → v.checked = [] ∧ v.mismatches = []) := by
  rcases validate_cases ran with ⟨_, rfl⟩ | ⟨wheel, _, ⟨declared, declares, rfl⟩ | ⟨unread, rfl⟩⟩
  · cases reported
  · cases reported
    constructor
    · intro other declares'
      rw [declares'.unique declares]
    · intro unread
      exact absurd declares (unread declared)
  · cases reported
    constructor
    · intro declared declares
      exact absurd declares (unread declared)
    · exact fun _ => ⟨rfl, rfl⟩

theorem conclude_validation {c : Collections} {dryRun : Bool} {steps : List FilterStep} {skipped : List String}
    {result : FilterResult} (named : project ≠ "")
    (ran : conclude c names ⟨some project, dryRun⟩ steps skipped w = .ok result w') :
    ∃ v u, validate c.all c.allArchives project (Filter.retained c names) w = .ok v u ∧
      result.validation = some v := by
  simp only [conclude, named, if_false] at ran
  obtain ⟨validation, u, validated, ended⟩ := Job.bind_ok_iff.1 ran
  obtain ⟨v, u', validated, wrapped⟩ := Job.bind_ok_iff.1 validated
  cases wrapped
  cases ended
  exact ⟨v, u, validated, rfl⟩

variable {result : FilterResult}

theorem wheels_kept (ran : run custom all names ⟨some project, false⟩ w = .ok result w')
    (other : ¬(PackageName.normalize project ∈ names.map PackageName.normalize ∧
      HasBuild w.disk custom (PackageName.normalize project))) (wheel : Archive) :
    HoldsWheel w'.disk all project wheel ↔ HoldsWheel w.disk all project wheel := by
  apply holdsWheel_congr
  intro named
  have kept : ¬IsReplaced w.disk custom all names (all.bare ++ [wheel.filename]) := by
    rintro ⟨name, wanted, build, f, named', here⟩
    cases List.append_cancel_left here
    cases named.unique named'
    exact other ⟨wanted, build⟩
  rw [Disk.file?_congr (kept_by_run ran (.inr kept))]

theorem wheels_replaced (ran : run custom all names ⟨some project, false⟩ w = .ok result w')
    (wanted : PackageName.normalize project ∈ names.map PackageName.normalize)
    (build : HasBuild w.disk custom (PackageName.normalize project)) (wheel : Archive) :
    HoldsWheel w'.disk all project wheel ↔ HoldsWheel w.disk custom project wheel := by
  apply holdsWheel_congr
  intro named
  obtain ⟨builds, copies, built, found, ⟨apart, same⟩ | done⟩ := run_cases ran
  · rw [same, apart]
  · exact done.file?_ne_none_iff built.areFiles (areFiles_of_listFiles found) wanted build named

-- A run validates, when its steps are done, a wheel among the copies that it found at first.
theorem validated_of_run (named : project ≠ "") (ran : run custom all names ⟨some project, false⟩ w = .ok result w') :
    ∃ builds copies v u u', AreBuilds w.disk custom builds ∧ w.disk.listFiles all = .ok copies ∧
      result.validation = some v ∧ u.disk = w'.disk ∧
      validate all (copies.filterMap Archive.parse?) project
        (Filter.retained (collected custom all builds copies) names) u = .ok v u' := by
  obtain ⟨builds, copies, built, found⟩ := listed_of_run ran
  obtain ⟨start, skipped, _, eq⟩ := run_eq names ⟨some project, false⟩ found built
  rw [eq] at ran
  obtain ⟨_, u, _, concluded⟩ := Job.bind_ok_iff.1 ran
  obtain ⟨_, _, concluded', same, _⟩ := conclude_run (collected custom all builds copies) names
    ⟨some project, false⟩ (steps w.disk (collected custom all builds copies) names) skipped u
  cases concluded.symm.trans concluded'
  obtain ⟨v, u', validated, value⟩ := conclude_validation named concluded
  exact ⟨builds, copies, v, u, u', built, found, value, same.symm, validated⟩

/-- A run that is asked to validate a project reports a highest wheel of the project among those that the
collection held when it began, or none if there was none. If the metadata of that wheel can be read when the
duplicates have been removed, it has checked exactly the wanted packages with builds that they declare, else
nothing. Unless the project is itself a wanted package with builds, the wheels of the project are still
the same then; otherwise they are those among its builds. -/
theorem run_validation (asked : project ≠ "") (ran : run custom all names ⟨some project, false⟩ w = .ok result w') :
    ∃ v, result.validation = some v ∧
      (v.projectWheel = none ↔ ∀ wheel, ¬HoldsWheel w.disk all project wheel) ∧
      (∀ f, v.projectWheel = some f → IsHighestWheel w.disk all project f ∧
        (∀ declared, Declares w'.disk (all.child f) declared →
          AreChecked w.disk custom names declared v.checked) ∧
        ((∀ declared, ¬Declares w'.disk (all.child f) declared) → v.checked = [] ∧ v.mismatches = [])) ∧
      (¬(PackageName.normalize project ∈ names.map PackageName.normalize ∧
          HasBuild w.disk custom (PackageName.normalize project)) →
        (∀ wheel, HoldsWheel w'.disk all project wheel ↔ HoldsWheel w.disk all project wheel) ∧
          ∀ f, v.projectWheel = some f → IsHighestWheel w'.disk all project f) ∧
      (PackageName.normalize project ∈ names.map PackageName.normalize →
        HasBuild w.disk custom (PackageName.normalize project) →
        (∀ wheel, HoldsWheel w'.disk all project wheel ↔ HoldsWheel w.disk custom project wheel) ∧
          ∀ f, IsHighestWheel w'.disk all project f ↔ IsHighestWheel w.disk custom project f) := by
  obtain ⟨builds, copies, v, u, u', built, found, value, same, validated⟩ := validated_of_run asked ran
  obtain ⟨absent, highest⟩ := reported_of_validate (areFiles_of_listFiles found) validated
  refine ⟨v, value, absent, ?_, ?_, ?_⟩
  · intro f reported
    obtain ⟨checked, unread⟩ := checked_of_validate validated reported
    rw [same] at checked unread
    refine ⟨highest f reported, fun declared declares => ?_, unread⟩
    rw [checked declared declares]
    exact areChecked_checkedNames built.areFiles declared
  · intro other
    have kept := wheels_kept ran other
    exact ⟨kept, fun f reported => (isHighestWheel_congr kept).2 (highest f reported)⟩
  · intro wanted build
    have replaced := wheels_replaced ran wanted build
    exact ⟨replaced, fun f => isHighestWheel_congr replaced⟩

section Sample

-- A build of one version of a project, and a wheel of a later one.
def rebuiltDisk : Disk :=
  (((Disk.empty.put ["c"] .folder).put ["c", "apex-1-py3-none-any.whl"] (.file .empty)).put ["a"] .folder).put
    ["a", "apex-2-py3-none-any.whl"] (.file .empty)

def rebuiltWorkspace : Workspace := ⟨rebuiltDisk, [], [], [], [], 0⟩

def apexWheel (version filename : String) : Archive := ⟨filename, "apex", version, .wheel none ⟨"py3", "none", "any"⟩⟩

theorem parse_apexWheel : Archive.parse? "apex-1-py3-none-any.whl" = some (apexWheel "1" "apex-1-py3-none-any.whl") ∧
    Archive.parse? "apex-2-py3-none-any.whl" = some (apexWheel "2" "apex-2-py3-none-any.whl") := by decide +kernel

theorem rebuilt_listed : rebuiltDisk.listFiles ["c"] = .ok ["apex-1-py3-none-any.whl"] ∧
    rebuiltDisk.listFiles ["a"] = .ok ["apex-2-py3-none-any.whl"] :=
  ⟨Disk.listFiles_of_single rfl (by decide), Disk.listFiles_of_single rfl (by decide)⟩

theorem rebuilt_steps :
    steps rebuiltDisk (collected ["c"] ["a"] ["apex-1-py3-none-any.whl"] ["apex-2-py3-none-any.whl"]) ["Apex"] =
      [.remove "apex" "apex-2-py3-none-any.whl", .restore "apex" "apex-1-py3-none-any.whl"] := by decide +kernel

theorem rebuilt_ran : ∃ result w, run ["c"] ["a"] ["Apex"] ⟨some "Apex", false⟩ rebuiltWorkspace = .ok result w := by
  let d := rebuiltDisk.erase ["a", "apex-2-py3-none-any.whl"]
  have removed : rebuiltDisk.remove (Path.child ["a"] "apex-2-py3-none-any.whl") = .ok d := rfl
  have file : d.find? ["c", "apex-1-py3-none-any.whl"] = some (.file .empty) := rfl
  have copied : Disk.copy (Path.child ["c"] "apex-1-py3-none-any.whl")
      (Path.child ["a"] "apex-1-py3-none-any.whl") d = _ :=
    Disk.copy_file_of_free file (by decide) rfl rfl (by decide)
  exact exists_run_of_exchange (some "Apex") rebuilt_listed.2 rebuilt_listed.1 rebuilt_steps removed copied

theorem rebuilt_holds : HoldsWheel rebuiltDisk ["c"] "Apex" (apexWheel "1" "apex-1-py3-none-any.whl") ∧
    HoldsWheel rebuiltDisk ["a"] "Apex" (apexWheel "2" "apex-2-py3-none-any.whl") := by
  have named : PackageName.normalize "apex" = PackageName.normalize "Apex" := by decide +kernel
  exact ⟨⟨parse_apexWheel.1, rfl, named, by decide⟩, ⟨parse_apexWheel.2, rfl, named, by decide⟩⟩

-- The later wheel is reported although it has been removed and the build has taken its place.
theorem run_validation_rebuilt : ∃ (result : FilterResult) (w : Workspace) (v : Validation),
    run ["c"] ["a"] ["Apex"] ⟨some "Apex", false⟩ rebuiltWorkspace = .ok result w ∧ result.validation = some v ∧
      v.projectWheel = some "apex-2-py3-none-any.whl" ∧ v.checked = [] ∧
      w.disk.file? ["a", "apex-2-py3-none-any.whl"] = none ∧
      IsHighestWheel w.disk ["a"] "Apex" "apex-1-py3-none-any.whl" := by
  obtain ⟨result, w, ran⟩ := rebuilt_ran
  obtain ⟨v, value, absent, reports, _, replaced⟩ := run_validation (show "Apex" ≠ "" by decide) ran
  obtain ⟨build, later⟩ := rebuilt_holds
  have wanted : PackageName.normalize "Apex" ∈ ["Apex"].map PackageName.normalize := List.mem_map_of_mem (by simp)
  obtain ⟨after, highest⟩ := replaced wanted ⟨_, build.isArchiveOf, build.there⟩
  have reported : v.projectWheel = some "apex-2-py3-none-any.whl" := by
    cases chosen : v.projectWheel with
    | none => exact absurd later (absent.1 chosen _)
    | some f =>
      obtain ⟨wheel, rfl, holds, _⟩ := (reports f chosen).1
      have listed := (areFiles_of_listFiles rebuilt_listed.2 _).2 holds.there
      rw [List.mem_singleton.1 listed]
  have gone : w.disk.file? ["a", "apex-2-py3-none-any.whl"] = none := by
    by_contra there
    have kept := ((after _).1 { later with there }).there
    revert kept
    decide
  have only : IsHighestWheel rebuiltDisk ["c"] "Apex" "apex-1-py3-none-any.whl" := by
    refine ⟨_, rfl, build, fun other holds => ?_⟩
    have listed := List.mem_singleton.1 ((areFiles_of_listFiles rebuilt_listed.1 _).2 holds.there)
    have parsed := holds.parsed
    rw [listed, parse_apexWheel.1, Option.some.injEq] at parsed
    simp [← parsed, Version.compareTexts]
  have unread : ∀ declared, ¬Declares w.disk (Path.child ["a"] "apex-2-py3-none-any.whl") declared := by
    rintro declared ⟨bytes, _, read, _⟩
    have file := Disk.file?_eq_some_iff.2 (Disk.readFile_ok read).2
    cases gone.symm.trans file
  exact ⟨result, w, v, ran, value, reported, ((reports _ reported).2.2 unread).1, gone, (highest _).2 only⟩

end Sample

end Wheelhouse.Filter
