import Wheelhouse.Proofs.Filter.Run

/-!
What is left when the duplicates have been removed. Of a wanted package with builds the collection holds
exactly the builds, nothing else is changed, and a second run finds nothing to do.
-/

set_option autoImplicit false

namespace Wheelhouse.Filter

variable {custom all : Path} {name f : String} {names builds copies : List String} {w w' : Workspace} {d : Disk}

/-- No two different files that are compared have the same digest. -/
def CollisionFree (d : Disk) (custom all : Path) : Prop :=
  ∀ f a b, d.file? (custom.bare ++ [f]) = some a → d.file? (all.bare ++ [f]) = some b →
    Sha256.hexDigest a = Sha256.hexDigest b → a = b

/-- Whether a place in the collection is one for archives of a wanted package with builds. -/
def IsReplaced (d : Disk) (custom all : Path) (names : List String) (q : Path) : Prop :=
  ∃ name ∈ names.map PackageName.normalize, HasBuild d custom name ∧
    ∃ f, IsArchiveOf name f ∧ q = all.bare ++ [f]

-- The collection holds exactly the builds of the wanted packages that have any.
def Settled (d : Disk) (custom all : Path) (names : List String) : Prop :=
  ∀ name ∈ names.map PackageName.normalize, HasBuild d custom name → ∀ f, IsArchiveOf name f →
    d.file? (all.bare ++ [f]) = d.file? (custom.bare ++ [f])

theorem settled_of_same (same : custom.bare = all.bare) (d : Disk) (names : List String) : Settled d custom all names :=
  fun _ _ _ _ _ => by rw [same]

theorem areFiles_of_listFiles (found : d.listFiles all = .ok copies) : AreFiles d all copies :=
  (Disk.mem_of_listFiles found).2

theorem AreBuilds.areFiles (built : AreBuilds d custom builds) : AreFiles d custom builds := by
  unfold AreBuilds at built
  split at built
  · exact areFiles_of_listFiles built
  · rename_i missing
    intro f
    subst built
    refine iff_of_false List.not_mem_nil fun file => missing ?_
    have folder := Disk.find?_above (Disk.found_of_file? file) (List.prefix_append _ _) (by simp)
    exact Disk.has_of_list (Disk.list_of_find? folder)

theorem isSame_of_eq (same : d.file? (all.bare ++ [f]) = d.file? (custom.bare ++ [f]))
    (there : d.file? (custom.bare ++ [f]) ≠ none) : IsSame d custom all f := by
  obtain ⟨contents, there⟩ := Option.ne_none_iff_exists'.1 there
  exact ⟨contents, contents, there, same.trans there, rfl⟩

theorem idle_of_settled (built : AreFiles d custom builds) (copied : AreFiles d all copies)
    (settled : Settled d custom all names) :
    ∀ step ∈ steps d (collected custom all builds copies) names, ∀ f, ¬Touches f step := by
  rintro _ inside f ⟨name, rfl | rfl⟩
  · obtain ⟨wanted, build, named, there, other⟩ := (remove_mem_steps built).1 inside
    have same := settled name wanted build f named
    exact other (isSame_of_eq same (same ▸ (copied f).1 there))
  · obtain ⟨wanted, named, there, other⟩ := (restore_mem_steps built copied).1 inside
    have file := (built f).1 there
    exact other (isSame_of_eq (settled name wanted ⟨f, named, file⟩ f named) file)

variable {project : Option String} {result : FilterResult}

theorem filterMap_eq_nil_of_idle {steps : List FilterStep} (idle : ∀ step ∈ steps, ∀ f, ¬Touches f step) :
    steps.filterMap FilterStep.removed? = [] ∧ steps.filterMap FilterStep.restored? = [] := by
  constructor <;> refine List.filterMap_eq_nil_iff.2 fun step inside => ?_ <;> cases step with
  | leave name => rfl
  | keep f => rfl
  | remove name f => exact absurd ⟨name, .inl rfl⟩ (idle _ inside f)
  | restore name f => exact absurd ⟨name, .inr rfl⟩ (idle _ inside f)

-- There is nothing to do for a collection that is settled.
theorem run_of_settled (project : Option String) (found : w.disk.listFiles all = .ok copies)
    (built : AreBuilds w.disk custom builds) (settled : Settled w.disk custom all names) :
    ∃ result v, run custom all names ⟨project, false⟩ w = .ok result v ∧ v.disk = w.disk ∧
      result.removed = [] ∧ result.restored = [] := by
  have idle := idle_of_settled built.areFiles (areFiles_of_listFiles found) settled
  have nothing := filterMap_eq_nil_of_idle idle
  obtain ⟨v, skipped, same, ran⟩ := run_eq names ⟨project, false⟩ found built
  obtain ⟨_, v', performed, same'⟩ := Job.isIdle_forM (fun step inside => isIdle_perform (idle step inside)) v
  obtain ⟨result, v'', concluded, same'', removed, restored⟩ := conclude_run (collected custom all builds copies) names
    ⟨project, false⟩ (steps w.disk (collected custom all builds copies) names) skipped v'
  refine ⟨result, v'', ?_, same''.trans (same'.trans same), removed.trans nothing.1, restored.trans nothing.2⟩
  rw [ran]
  exact (Job.bind_ok performed).trans concluded

theorem canPerform (found : d.listFiles all = .ok copies) (built : AreFiles d custom builds) :
    CanPerform custom all (steps d (collected custom all builds copies) names) d where
  folder := (Disk.mem_of_listFiles found).1
  removable _ f inside := (areFiles_of_listFiles found f).1 ((remove_mem_steps built).1 inside).2.2.2.1
  buildable _ f inside :=
    (built f).1 ((restore_mem_steps built (areFiles_of_listFiles found)).1 inside).2.2.1

-- A run has done its steps, and nothing after them changes the disk.
theorem performed_of_run (apart : custom.bare ≠ all.bare) (found : w.disk.listFiles all = .ok copies)
    (built : AreBuilds w.disk custom builds) (ran : run custom all names ⟨project, false⟩ w = .ok result w') :
    Performed custom all (steps w.disk (collected custom all builds copies) names) w.disk w'.disk := by
  obtain ⟨v, skipped, same, eq⟩ := run_eq names ⟨project, false⟩ found built
  rw [eq] at ran
  obtain ⟨_, v', stepped, concluded⟩ := Job.bind_ok_iff.1 ran
  obtain ⟨result', v'', concluded', same', _⟩ := conclude_run (collected custom all builds copies) names
    ⟨project, false⟩ (steps w.disk (collected custom all builds copies) names) skipped v'
  cases concluded.symm.trans concluded'
  have order : (steps w.disk (collected custom all builds copies) names).Pairwise Spares :=
    pairwise_steps built.areFiles (areFiles_of_listFiles found) (Disk.nodup_of_listFiles found)
  have can : CanPerform custom all (steps w.disk (collected custom all builds copies) names) v.disk := by
    rw [same]
    exact canPerform found built.areFiles
  have done := performed apart order can stepped
  rwa [same, ← same'] at done

theorem Performed.file?_untouched {steps : List FilterStep} {d' : Disk} (done : Performed custom all steps d d')
    (untouched : ∀ step ∈ steps, ¬Touches f step) : d'.file? (all.bare ++ [f]) = d.file? (all.bare ++ [f]) :=
  Disk.file?_congr (done.kept _ (.inr (by simpa using untouched)))

-- A copy with the digest of the build of its name stays. Any other file of a wanted package with builds is in
-- the end that build, or gone.
theorem Performed.file?_cases {d' : Disk} (built : AreFiles d custom builds) (copied : AreFiles d all copies)
    (done : Performed custom all (steps d (collected custom all builds copies) names) d d')
    (wanted : name ∈ names.map PackageName.normalize) (build : HasBuild d custom name) (named : IsArchiveOf name f) :
    (IsSame d custom all f ∧ d'.file? (all.bare ++ [f]) = d.file? (all.bare ++ [f])) ∨
      d'.file? (all.bare ++ [f]) = d.file? (custom.bare ++ [f]) := by
  by_cases same : IsSame d custom all f
  · refine .inl ⟨same, done.file?_untouched ?_⟩
    rintro _ inside ⟨n, rfl | rfl⟩
    · exact ((remove_mem_steps built).1 inside).2.2.2.2 same
    · exact ((restore_mem_steps built copied).1 inside).2.2.2 same
  · right
    by_cases source : f ∈ builds
    · exact Disk.file?_congr (done.restored name f ((restore_mem_steps built copied).2 ⟨wanted, named, source, same⟩))
    · have missing : ∀ n, .restore n f ∉ steps d (collected custom all builds copies) names :=
        fun n again => source ((restore_mem_steps built copied).1 again).2.2.1
      have none : d.file? (custom.bare ++ [f]) = none := by
        by_contra file
        exact source ((built f).2 file)
      rw [none]
      by_cases there : f ∈ copies
      · have removed := (remove_mem_steps built).2 ⟨wanted, build, named, there, same⟩
        rw [Disk.file?, done.removed name f removed missing]
      · rw [done.file?_untouched]
        · by_contra file
          exact there ((copied f).2 file)
        · rintro _ inside ⟨n, rfl | rfl⟩
          · exact there ((remove_mem_steps built).1 inside).2.2.2.1
          · exact missing n inside

theorem Performed.file?_replaced {d' : Disk} (built : AreFiles d custom builds) (copied : AreFiles d all copies)
    (distinct : CollisionFree d custom all)
    (done : Performed custom all (steps d (collected custom all builds copies) names) d d')
    (wanted : name ∈ names.map PackageName.normalize) (build : HasBuild d custom name) (named : IsArchiveOf name f) :
    d'.file? (all.bare ++ [f]) = d.file? (custom.bare ++ [f]) := by
  rcases done.file?_cases built copied wanted build named with ⟨same, kept⟩ | replaced
  · obtain ⟨a, b, source, target, digests⟩ := same
    rw [kept, source, target, distinct f a b source target digests]
  · exact replaced

-- Whatever the digests are, the files that are left have the names of builds.
theorem Performed.file?_ne_none_iff {d' : Disk} (built : AreFiles d custom builds) (copied : AreFiles d all copies)
    (done : Performed custom all (steps d (collected custom all builds copies) names) d d')
    (wanted : name ∈ names.map PackageName.normalize) (build : HasBuild d custom name) (named : IsArchiveOf name f) :
    d'.file? (all.bare ++ [f]) ≠ none ↔ d.file? (custom.bare ++ [f]) ≠ none := by
  rcases done.file?_cases built copied wanted build named with ⟨same, kept⟩ | replaced
  · obtain ⟨a, b, source, target, _⟩ := same
    simp [kept, source, target]
  · rw [replaced]

theorem Performed.find?_kept {d' : Disk} (built : AreFiles d custom builds) (copied : AreFiles d all copies)
    (done : Performed custom all (steps d (collected custom all builds copies) names) d d') {q : Path}
    (other : d.find? q = some .folder ∨ ¬IsReplaced d custom all names q) : d'.find? q = d.find? q := by
  refine done.kept q (other.imp_right fun other f here step inside touches => other ?_)
  obtain ⟨n, rfl | rfl⟩ := touches
  · obtain ⟨wanted, build, named, _⟩ := (remove_mem_steps built).1 inside
    exact ⟨n, wanted, build, f, named, here⟩
  · obtain ⟨wanted, named, there, _⟩ := (restore_mem_steps built copied).1 inside
    exact ⟨n, wanted, ⟨f, named, (built f).1 there⟩, f, named, here⟩

-- If both folders are the same, a run leaves the disk as it is; else it does its steps.
theorem run_cases (ran : run custom all names ⟨project, false⟩ w = .ok result w') :
    ∃ builds copies, AreBuilds w.disk custom builds ∧ w.disk.listFiles all = .ok copies ∧
      ((custom.bare = all.bare ∧ w'.disk = w.disk) ∨
        Performed custom all (steps w.disk (collected custom all builds copies) names) w.disk w'.disk) := by
  obtain ⟨builds, copies, built, found⟩ := listed_of_run ran
  refine ⟨builds, copies, built, found, ?_⟩
  by_cases apart : custom.bare = all.bare
  · obtain ⟨_, _, ran', same, _⟩ := run_of_settled project found built (settled_of_same apart w.disk names)
    cases ran.symm.trans ran'
    exact .inl ⟨apart, same⟩
  · exact .inr (performed_of_run apart found built ran)

theorem kept_by_run (ran : run custom all names ⟨project, false⟩ w = .ok result w') {q : Path}
    (other : w.disk.find? q = some .folder ∨ ¬IsReplaced w.disk custom all names q) :
    w'.disk.find? q = w.disk.find? q := by
  obtain ⟨builds, copies, built, found, ⟨_, same⟩ | done⟩ := run_cases ran
  · rw [same]
  · exact done.find?_kept built.areFiles (areFiles_of_listFiles found) other

theorem left_by_run (distinct : CollisionFree w.disk custom all)
    (ran : run custom all names ⟨project, false⟩ w = .ok result w') :
    (∀ name ∈ names.map PackageName.normalize, HasBuild w.disk custom name → ∀ f, IsArchiveOf name f →
        w'.disk.file? (all.bare ++ [f]) = w.disk.file? (custom.bare ++ [f])) ∧
      ∀ q, (w.disk.find? q = some .folder ∨ ¬IsReplaced w.disk custom all names q) →
        w'.disk.find? q = w.disk.find? q := by
  refine ⟨fun name wanted build f named => ?_, fun q other => kept_by_run ran other⟩
  obtain ⟨builds, copies, built, found, ⟨apart, same⟩ | done⟩ := run_cases ran
  · rw [same, apart]
  · exact done.file?_replaced built.areFiles (areFiles_of_listFiles found) distinct wanted build named

theorem not_isReplaced_custom (apart : custom.bare ≠ all.bare) (f : String) :
    ¬IsReplaced d custom all names (custom.bare ++ [f]) := by
  rintro ⟨_, _, _, g, _, same⟩
  exact apart (List.append_inj' same rfl).1

theorem listed_again {d' : Disk} (built : AreBuilds d custom builds) (found : d.listFiles all = .ok copies)
    (kept : ∀ q, (d.find? q = some .folder ∨ ¬IsReplaced d custom all names q) → d'.find? q = d.find? q) :
    ∃ builds copies, AreBuilds d' custom builds ∧ d'.listFiles all = .ok copies := by
  have listed {folder : Path} (there : d.find? folder.bare = some .folder) :
      d'.listFiles folder = .ok (Text.sorted (Disk.fileNames (d'.children folder.bare))) := by
    rw [Disk.listFiles, Disk.list_of_find? (there ▸ kept _ (.inl there))]
    rfl
  have copies' := listed (Disk.mem_of_listFiles found).1
  by_cases there : d.has custom = true
  · rw [AreBuilds, if_pos there] at built
    have builds' := listed (Disk.mem_of_listFiles built).1
    exact ⟨_, _, by rwa [AreBuilds, if_pos (Disk.has_of_listFiles builds')], copies'⟩
  · have absent : ¬IsReplaced d custom all names custom.bare := by
      rintro ⟨name, _, ⟨f, _, file⟩, _⟩
      have folder := Disk.find?_above (Disk.found_of_file? file) (List.prefix_append _ _) (by simp)
      exact there (Disk.has_of_list (Disk.list_of_find? folder))
    have missing : ¬d'.has custom = true := by rwa [Disk.has_congr (kept _ (.inr absent))]
    exact ⟨[], _, by rw [AreBuilds, if_neg missing], copies'⟩

/-- When a run has removed the duplicates, the archives of each wanted package with builds are exactly its
builds. Nothing else is changed, in the folder of the builds nothing at all unless it is the collection, and
the next run removes and copies nothing. -/
theorem run_leaves_builds (distinct : CollisionFree w.disk custom all)
    (ran : run custom all names ⟨project, false⟩ w = .ok result w') :
    (∀ name ∈ names.map PackageName.normalize, HasBuild w.disk custom name → ∀ f, IsArchiveOf name f →
        w'.disk.file? (all.bare ++ [f]) = w.disk.file? (custom.bare ++ [f])) ∧
      (∀ q, (w.disk.find? q = some .folder ∨ ¬IsReplaced w.disk custom all names q) →
        w'.disk.find? q = w.disk.find? q) ∧
      (custom.bare ≠ all.bare → ∀ f, w'.disk.find? (custom.bare ++ [f]) = w.disk.find? (custom.bare ++ [f])) ∧
      (¬custom.bare <+: all.bare → ∀ q, custom.bare <+: q → w'.disk.find? q = w.disk.find? q) ∧
      ∃ again w'', run custom all names ⟨project, false⟩ w' = .ok again w'' ∧ again.removed = [] ∧
        again.restored = [] ∧ w''.disk = w'.disk := by
  obtain ⟨builds, copies, built, found⟩ := listed_of_run ran
  obtain ⟨replaced, kept⟩ := left_by_run distinct ran
  have customs (apart : custom.bare ≠ all.bare) (f : String) :
      w'.disk.find? (custom.bare ++ [f]) = w.disk.find? (custom.bare ++ [f]) :=
    kept _ (.inr (not_isReplaced_custom apart f))
  have outside (apart : ¬custom.bare <+: all.bare) (q : Path) (below : custom.bare <+: q) :
      w'.disk.find? q = w.disk.find? q := by
    by_cases taken : IsReplaced w.disk custom all names q
    · -- Only the folder of the builds itself could be such a place, and it is a folder.
      obtain ⟨_, _, ⟨g, _, file⟩, f, _, rfl⟩ := taken
      rw [← (List.prefix_concat_iff.1 below).resolve_right apart]
      exact kept _ (.inl (Disk.find?_above (Disk.found_of_file? file) (List.prefix_append _ _) (by simp)))
    · exact kept q (.inr taken)
  have settled : Settled w'.disk custom all names := by
    by_cases apart : custom.bare = all.bare
    · exact settled_of_same apart w'.disk names
    · intro name wanted build f named
      obtain ⟨g, named', file⟩ := build
      rw [Disk.file?, customs apart, ← Disk.file?] at file
      rw [replaced name wanted ⟨g, named', file⟩ f named, Disk.file?, Disk.file?, customs apart]
  obtain ⟨builds', copies', built', found'⟩ := listed_again built found kept
  obtain ⟨again, w'', ran', same, removed, restored⟩ := run_of_settled project found' built' settled
  exact ⟨replaced, kept, customs, outside, again, w'', ran', removed, restored, same⟩

-- A run succeeds that has to put one build in the place of one copy, if both can be done.
theorem exists_run_of_exchange {f g : String} {d₁ d₂ : Disk} (project : Option String)
    (found : w.disk.listFiles all = .ok [g]) (built : AreBuilds w.disk custom [f])
    (planned : steps w.disk (collected custom all [f] [g]) names = [.remove name g, .restore name f])
    (removed : w.disk.remove (all.child g) = .ok d₁)
    (copied : Disk.copy (custom.child f) (all.child f) d₁ = .ok () d₂) :
    ∃ result w', run custom all names ⟨project, false⟩ w = .ok result w' := by
  apply exists_run found built
  intro v same
  rw [← same] at removed
  obtain ⟨u, first, same'⟩ := exists_perform_remove name removed
  rw [← same'] at copied
  obtain ⟨v', second, _⟩ := exists_perform_restore name copied
  rw [planned]
  exact ⟨v', (Job.bind_ok first).trans (Job.bind_ok second)⟩

section Sample

-- A build of one version, and a copy of another one.
def sampleDisk : Disk :=
  (((Disk.empty.put ["c"] .folder).put ["c", "apex-1.zip"] (.file .empty)).put ["a"] .folder).put
    ["a", "apex-2.zip"] (.file .empty)

def sampleWorkspace : Workspace := ⟨sampleDisk, [], [], [], [], 0⟩

theorem sample_listed : sampleDisk.listFiles ["c"] = .ok ["apex-1.zip"] ∧ sampleDisk.listFiles ["a"] = .ok ["apex-2.zip"] :=
  ⟨Disk.listFiles_of_single rfl (by decide), Disk.listFiles_of_single rfl (by decide)⟩

theorem sample_steps : steps sampleDisk (collected ["c"] ["a"] ["apex-1.zip"] ["apex-2.zip"]) ["Apex"] =
    [.remove "apex" "apex-2.zip", .restore "apex" "apex-1.zip"] := by decide +kernel

theorem sample_ran : ∃ result w, run ["c"] ["a"] ["Apex"] ⟨none, false⟩ sampleWorkspace = .ok result w := by
  let d := sampleDisk.erase ["a", "apex-2.zip"]
  have removed : sampleDisk.remove (Path.child ["a"] "apex-2.zip") = .ok d := rfl
  have file : d.find? ["c", "apex-1.zip"] = some (.file .empty) := rfl
  have copied : Disk.copy (Path.child ["c"] "apex-1.zip") (Path.child ["a"] "apex-1.zip") d = _ :=
    Disk.copy_file_of_free file (by decide) rfl rfl (by decide)
  exact exists_run_of_exchange none sample_listed.2 sample_listed.1 sample_steps removed copied

theorem run_leaves_builds_sample : ∃ (result again : FilterResult) (w w' : Workspace),
    run ["c"] ["a"] ["Apex"] ⟨none, false⟩ sampleWorkspace = .ok result w ∧
      w.disk.file? ["a", "apex-1.zip"] = some .empty ∧ w.disk.file? ["a", "apex-2.zip"] = none ∧
      run ["c"] ["a"] ["Apex"] ⟨none, false⟩ w = .ok again w' ∧ again.removed = [] ∧ again.restored = [] := by
  obtain ⟨result, w, ran⟩ := sample_ran
  have distinct : CollisionFree sampleWorkspace.disk ["c"] ["a"] := by
    intro f a b source target _
    have build := (areFiles_of_listFiles sample_listed.1 f).2 (Option.ne_none_iff_exists'.2 ⟨a, source⟩)
    have copy := (areFiles_of_listFiles sample_listed.2 f).2 (Option.ne_none_iff_exists'.2 ⟨b, target⟩)
    simp_all
  have wanted : "apex" ∈ ["Apex"].map PackageName.normalize := by decide +kernel
  have named (f : String) (inside : f ∈ ["apex-1.zip", "apex-2.zip"]) : IsArchiveOf "apex" f := by
    have parsed : ∀ f ∈ ["apex-1.zip", "apex-2.zip"], ((Archive.parse? f).map Archive.normalizedName) = some "apex" := by
      decide +kernel
    exact Option.map_eq_some_iff.1 (parsed f inside)
  obtain ⟨replaced, _, _, _, again, w', ran', removed, restored, _⟩ := run_leaves_builds distinct ran
  have left := replaced "apex" wanted ⟨"apex-1.zip", named _ (by simp), by decide⟩
  exact ⟨result, again, w, w', ran, left _ (named "apex-1.zip" (by simp)), left _ (named "apex-2.zip" (by simp)), ran', removed, restored⟩

end Sample

end Wheelhouse.Filter
