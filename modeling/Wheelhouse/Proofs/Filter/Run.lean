import Wheelhouse.Filter.Run
import Wheelhouse.Proofs.Disk.Walk
import Wheelhouse.Proofs.Filter.Plan
import Wheelhouse.Proofs.Job

/-!
What is left when the duplicates have been removed. Of a wanted package with builds the collection holds
exactly the builds, and nothing else is changed, so that a second run finds nothing to do.
-/

set_option autoImplicit false

namespace Wheelhouse.Filter

variable {custom all : Path} {name f : String} {w w' : Workspace} {d d' : Disk}

-- What a step leaves at each place.
def left (custom all : Path) (d : Disk) (step : FilterStep) (q : Path) : Option Entry :=
  match step with
  | .remove _ f => if q = all.bare ++ [f] then none else d.find? q
  | .restore _ f => if q = all.bare ++ [f] then d.find? (custom.bare ++ [f]) else d.find? q
  | _ => d.find? q

-- The files that are removed are in the collection, and those that are copied are among the builds.
structure CanPerform (custom all : Path) (steps : List FilterStep) (d : Disk) : Prop where
  folder : d.find? all.bare = some .folder
  removable : ∀ name f, .remove name f ∈ steps → d.file? (all.bare ++ [f]) ≠ none
  buildable : ∀ name f, .restore name f ∈ steps → d.file? (custom.bare ++ [f]) ≠ none

theorem perform_remove (file : w.disk.file? (all.bare ++ [f]) ≠ none)
    (ran : perform custom all false (.remove name f) w = .ok () w') (q : Path) :
    w'.disk.find? q = left custom all w.disk (.remove name f) q := by
  obtain ⟨_, v, removed, noted⟩ := Job.bind_ok_iff.1 ran
  cases noted
  obtain ⟨d, erased, rfl⟩ := Job.change_ok_iff.1 removed
  obtain rfl := Disk.remove_ok (Disk.attempt_ok_iff.1 erased)
  obtain ⟨contents, file⟩ := Option.ne_none_iff_exists'.1 file
  have there := Disk.file?_eq_some_iff.1 file
  have found : w.disk.find? (all.bare ++ [f]) ≠ none := by simp [there]
  change (w.disk.erase (Path.bare (all.bare ++ [f]))).find? q = if q = all.bare ++ [f] then none else w.disk.find? q
  rw [(Disk.isPlain_of_find? found).bare, Disk.find?_erase (by simp)]
  by_cases here : q = all.bare ++ [f]
  · simp [here]
  · by_cases below : all.bare ++ [f] <+: q
    · simp [here, Disk.find?_eq_none_of_file there below (Ne.symm here)]
    · simp [here, below]

theorem perform_restore (folder : w.disk.find? all.bare = some .folder)
    (build : w.disk.file? (custom.bare ++ [f]) ≠ none)
    (ran : perform custom all false (.restore name f) w = .ok () w') :
    (∀ q, w'.disk.find? q = left custom all w.disk (.restore name f) q) ∧
      w.disk.find? (all.bare ++ [f]) ≠ some .folder := by
  obtain ⟨_, v, changed, noted⟩ := Job.bind_ok_iff.1 ran
  cases noted
  obtain ⟨d, copied, rfl⟩ := Job.change_ok_iff.1 changed
  obtain ⟨contents, file⟩ := Option.ne_none_iff_exists'.1 build
  have source := Disk.file?_eq_some_iff.1 file
  have named : ∀ n ∈ all.bare ++ [f], Path.isName n = true := by
    intro n inside
    rcases List.mem_append.1 inside with above | last
    · exact Disk.isName_of_find? (by rw [folder]; simp) n above
    · exact Disk.isName_of_find? (p := custom.bare ++ [f]) (by rw [source]; simp) n (by simp [List.mem_singleton.1 last])
  have parent : w.disk.find? (all.bare ++ [f]).dropLast = some .folder := by simpa using folder
  rcases Disk.copy_file source (.of_isName named) parent with ⟨x, failed⟩ | ⟨put, free⟩
  · cases copied.symm.trans failed
  · cases copied.symm.trans put
    refine ⟨fun q => ?_, fun there => by simp [Disk.isFolder, there] at free⟩
    change (w.disk.put (all.bare ++ [f]) (.file contents)).find? q =
      if q = all.bare ++ [f] then w.disk.find? (custom.bare ++ [f]) else w.disk.find? q
    rw [Disk.find?_put (Disk.takes_of_parent named (by simp) parent free), source]

theorem exists_perform_remove (name : String) (removed : w.disk.remove (all.child f) = .ok d) :
    ∃ v, perform custom all false (.remove name f) w = .ok () v ∧ v.disk = d :=
  ⟨_, Job.bind_ok (Job.change_ok_iff.2 ⟨d, Disk.attempt_ok_iff.2 removed, rfl⟩), rfl⟩

theorem exists_perform_restore (name : String) (copied : Disk.copy (custom.child f) (all.child f) w.disk = .ok () d) :
    ∃ v, perform custom all false (.restore name f) w = .ok () v ∧ v.disk = d :=
  ⟨_, Job.bind_ok (Job.change_ok_iff.2 ⟨d, copied, rfl⟩), rfl⟩

theorem perform_ok {step : FilterStep} {rest : List FilterStep} (can : CanPerform custom all (step :: rest) w.disk)
    (ran : perform custom all false step w = .ok () w') (q : Path) :
    w'.disk.find? q = left custom all w.disk step q := by
  cases step with
  | leave name =>
    cases ran
    rfl
  | keep f =>
    cases ran
    rfl
  | remove name f => exact perform_remove (can.removable name f (by simp)) ran q
  | restore name f => exact (perform_restore can.folder (can.buildable name f (by simp)) ran).1 q

theorem perform_folder {step : FilterStep} {rest : List FilterStep} (can : CanPerform custom all (step :: rest) w.disk)
    (ran : perform custom all false step w = .ok () w') {q : Path} (folder : w.disk.find? q = some .folder) :
    w'.disk.find? q = some .folder := by
  rw [perform_ok can ran, ← folder]
  cases step with
  | leave name => rfl
  | keep f => rfl
  | remove name f =>
    refine if_neg ?_
    rintro rfl
    exact can.removable name f (by simp) (Disk.file?_of_isFolder folder)
  | restore name f =>
    refine if_neg ?_
    rintro rfl
    exact (perform_restore can.folder (can.buildable name f (by simp)) ran).2 folder

theorem left_of_untouched {step : FilterStep} {q : Path} (untouched : ∀ f, q = all.bare ++ [f] → ¬Touches f step) :
    left custom all d step q = d.find? q := by
  cases step with
  | leave name => rfl
  | keep f => rfl
  | remove name f => exact if_neg fun here => untouched f here ⟨name, .inl rfl⟩
  | restore name f => exact if_neg fun here => untouched f here ⟨name, .inr rfl⟩

-- What a run of steps leaves behind.
structure Performed (custom all : Path) (steps : List FilterStep) (d d' : Disk) : Prop where
  restored : ∀ name f, .restore name f ∈ steps → d'.find? (all.bare ++ [f]) = d.find? (custom.bare ++ [f])
  removed : ∀ name f, .remove name f ∈ steps → (∀ n, .restore n f ∉ steps) → d'.find? (all.bare ++ [f]) = none
  kept : ∀ q, (d.find? q = some .folder ∨ ∀ f, q = all.bare ++ [f] → ∀ step ∈ steps, ¬Touches f step) →
    d'.find? q = d.find? q

theorem performed {steps : List FilterStep} (apart : custom.bare ≠ all.bare) (order : steps.Pairwise Spares)
    (can : CanPerform custom all steps w.disk) (ran : steps.forM (perform custom all false) w = .ok () w') :
    Performed custom all steps w.disk w'.disk := by
  induction steps generalizing w with
  | nil =>
    cases ran
    exact ⟨by simp, by simp, fun _ _ => rfl⟩
  | cons step rest ih =>
    have both : (perform custom all false step >>= fun _ => rest.forM (perform custom all false)) w = .ok () w' := ran
    obtain ⟨_, v, first, later⟩ := Job.bind_ok_iff.1 both
    obtain ⟨ahead, order⟩ := List.pairwise_cons.1 order
    have once (q : Path) : v.disk.find? q = left custom all w.disk step q := perform_ok can first q
    have still {q : Path} (untouched : ∀ f, q = all.bare ++ [f] → ¬Touches f step) : v.disk.find? q = w.disk.find? q :=
      (once q).trans (left_of_untouched untouched)
    have builds (f : String) : v.disk.find? (custom.bare ++ [f]) = w.disk.find? (custom.bare ++ [f]) :=
      still fun g same => absurd (List.append_inj' same rfl).1 apart
    have canRest : CanPerform custom all rest v.disk := by
      refine ⟨?_, fun name f inside => ?_, fun name f inside => ?_⟩
      · rw [still fun f same => by simp at same, can.folder]
      · have spared := ahead _ inside name f rfl
        rw [Disk.file?_congr (still fun g same => by cases List.append_cancel_left same; exact spared)]
        exact can.removable name f (List.mem_cons_of_mem _ inside)
      · rw [Disk.file?_congr (builds f)]
        exact can.buildable name f (List.mem_cons_of_mem _ inside)
    have tail := ih order canRest later
    refine ⟨fun name f inside => ?_, fun name f inside none => ?_, fun q untouched => ?_⟩
    · by_cases again : ∃ n, .restore n f ∈ rest
      · obtain ⟨n, again⟩ := again
        rw [tail.restored n f again, builds]
      · obtain rfl : .restore name f = step := (List.mem_cons.1 inside).resolve_right fun later => again ⟨name, later⟩
        have last : ∀ s ∈ rest, ¬Touches f s := by
          rintro s member ⟨n, rfl | rfl⟩
          · exact ahead _ member n f rfl ⟨name, .inr rfl⟩
          · exact again ⟨n, member⟩
        rw [tail.kept _ (.inr (by simpa using last)), once]
        exact if_pos rfl
    · by_cases again : ∃ n, .remove n f ∈ rest
      · obtain ⟨n, again⟩ := again
        exact tail.removed n f again fun m later => none m (List.mem_cons_of_mem _ later)
      · obtain rfl : .remove name f = step := (List.mem_cons.1 inside).resolve_right fun later => again ⟨name, later⟩
        have last : ∀ s ∈ rest, ¬Touches f s := by
          rintro s member ⟨n, rfl | rfl⟩
          · exact again ⟨n, member⟩
          · exact none n (List.mem_cons_of_mem _ member)
        rw [tail.kept _ (.inr (by simpa using last)), once]
        exact if_pos rfl
    · rcases untouched with folder | untouched
      · have same := perform_folder can first folder
        rw [tail.kept q (.inl same), same, folder]
      · rw [tail.kept q (.inr fun f here s member => untouched f here s (List.mem_cons_of_mem _ member))]
        exact still fun f here => untouched f here step List.mem_cons_self

theorem isIdle_perform {step : FilterStep} (idle : ∀ f, ¬Touches f step) :
    Job.IsIdle (perform custom all false step) := by
  cases step with
  | leave name => exact Job.isIdle_record _
  | keep f => exact Job.isIdle_pure ()
  | remove name f => exact absurd ⟨name, .inl rfl⟩ (idle f)
  | restore name f => exact absurd ⟨name, .inr rfl⟩ (idle f)

theorem scanFolder_run {p : Path} {files : List String} (listed : w.disk.listFiles p = .ok files) :
    ∃ skipped v, scanFolder p w = .ok (files.filterMap Archive.parse?, skipped) v ∧ v.disk = w.disk := by
  unfold scanFolder
  rw [Job.bind_ok (Job.look_ok_iff.2 ⟨listed, rfl⟩)]
  have noted : Job.IsIdle (files.forM fun f => do
      if !Archive.hasExtension f then
        Job.debug "아카이브가 아닌 파일 무시" [("dir", .string p.text), ("filename", .string f)]
      else if (Archive.parse? f).isNone then
        Job.warn "아카이브 파일명 파싱 실패, 건너뜀" [("dir", .string p.text), ("filename", .string f)]) := by
    refine Job.isIdle_forM fun f _ => ?_
    split_ifs
    · exact Job.isIdle_record _
    · exact Job.isIdle_record _
    · exact Job.isIdle_pure ()
  obtain ⟨_, v, ran, same⟩ := noted w
  rw [Job.bind_ok ran, ← scan_archives]
  exact ⟨_, v, rfl, same⟩

theorem listed_of_scanFolder {p : Path} {found : List Archive × List String} (scanned : scanFolder p w = .ok found w') :
    (∃ files, w.disk.listFiles p = .ok files) ∧ w'.disk = w.disk := by
  obtain ⟨files, v, looked, _⟩ := Job.bind_ok_iff.1 scanned
  obtain ⟨listed, _⟩ := Job.look_ok_iff.1 looked
  obtain ⟨skipped, v', scanned', same⟩ := scanFolder_run listed
  cases scanned.symm.trans scanned'
  exact ⟨⟨files, listed⟩, same⟩

theorem keepsDisk_read (wheel : Path) : Job.KeepsDisk (Metadata.read wheel) := by
  have found : Job.KeepsDisk (do
      return Metadata.dependencies (← Job.ofExcept (Metadata.find wheel (← Job.readFile wheel))) : Job Dependencies) :=
    (Job.keepsDisk_look _).bind fun _ => (Job.keepsDisk_ofExcept _).bind fun _ => (Job.isIdle_pure _).keepsDisk
  have here : Job.IsIdle (Job.has wheel) := fun w => ⟨_, w, Job.has_run _ w, rfl⟩
  refine here.keepsDisk.bind fun there => ?_
  cases there with
  | true => exact found
  | false => exact (Job.keepsDisk_throw _).bind fun _ => found

theorem isIdle_validate (all : Path) (archives : List Archive) (project : String)
    (retained : List (String × List String)) : Job.IsIdle (validate all archives project retained) := by
  unfold validate
  split
  · exact (Job.isIdle_record _).bind fun _ => Job.isIdle_pure _
  · refine (keepsDisk_read _).outcome.bind fun outcome => ?_
    split
    · exact (Job.isIdle_record _).bind fun _ => Job.isIdle_pure _
    · simp only
      split_ifs
      · exact (Job.isIdle_record _).bind fun _ => Job.isIdle_pure _
      · exact (Job.isIdle_record _).bind fun _ => Job.isIdle_pure _

-- How a run ends when all steps have been done.
def conclude (c : Collections) (names : List String) (options : FilterOptions) (steps : List FilterStep)
    (skipped : List String) : Job FilterResult := do
  let validation ←
    match options.project with
    | some project =>
      if project = "" then pure none
      else some <$> validate c.all c.allArchives project (retained c names)
    | none => pure none
  let result : FilterResult :=
    { removed := steps.filterMap FilterStep.removed?
      kept := steps.filterMap FilterStep.kept?
      restored := steps.filterMap FilterStep.restored?
      noCustomBuild := steps.filterMap FilterStep.left?
      skipped
      validation }
  Job.info "중복 필터링 완료"
    [("removed", count result.removed.length), ("kept", count result.kept.length),
      ("restored", count result.restored.length), ("noCustomBuild", strings result.noCustomBuild),
      ("dryRun", .bool options.dryRun)]
  return result

theorem conclude_run (c : Collections) (names : List String) (options : FilterOptions) (steps : List FilterStep)
    (skipped : List String) (w : Workspace) :
    ∃ result v, conclude c names options steps skipped w = .ok result v ∧ v.disk = w.disk ∧
      result.removed = steps.filterMap FilterStep.removed? ∧
      result.restored = steps.filterMap FilterStep.restored? := by
  unfold conclude
  cases options.project with
  | none => exact ⟨_, _, rfl, rfl, rfl, rfl⟩
  | some project =>
    by_cases empty : project = ""
    · simp only [empty, if_true]
      exact ⟨_, _, rfl, rfl, rfl, rfl⟩
    · have validated : Job.IsIdle (some <$> validate c.all c.allArchives project (retained c names)) :=
        (isIdle_validate _ _ _ _).bind fun _ => Job.isIdle_pure _
      obtain ⟨validation, v, ran, same⟩ := validated w
      simp only [empty, if_false]
      rw [Job.bind_ok ran]
      exact ⟨_, _, rfl, same, rfl, rfl⟩

-- A run from the moment the builds are known.
def proceed (custom all : Path) (names : List String) (options : FilterOptions) (customArchives : List Archive)
    (customSkipped : List String) : Job FilterResult := do
  let (allArchives, allSkipped) ← scanFolder all
  let c : Collections := { custom, all, customArchives, allArchives }
  let steps := steps (← Job.disk) c names
  steps.forM (perform custom all options.dryRun)
  conclude c names options steps (customSkipped ++ allSkipped)

theorem run_eq_proceed (custom all : Path) (names : List String) (options : FilterOptions) :
    run custom all names options = (do
      unless ← Job.has all do throw (.missing "전체 수집 디렉토리" all.text none)
      let (customArchives, customSkipped) ←
        if ← Job.has custom then scanFolder custom else pure ([], [])
      if customArchives.isEmpty then
        Job.warn "커스텀 빌드 디렉토리에 아카이브가 없습니다" [("customDir", .string custom.text)]
      proceed custom all names options customArchives customSkipped) := rfl

variable {names : List String} {options : FilterOptions} {builds copies : List String}

theorem proceed_eq (found : w.disk.listFiles all = .ok copies) (customSkipped : List String) :
    ∃ v skipped, v.disk = w.disk ∧ proceed custom all names options (builds.filterMap Archive.parse?) customSkipped w =
      (do
        let c := collected custom all builds copies
        (steps w.disk c names).forM (perform custom all options.dryRun)
        conclude c names options (steps w.disk c names) skipped : Job FilterResult) v := by
  obtain ⟨skipped, v, scanned, same⟩ := scanFolder_run found
  rw [proceed, Job.bind_ok scanned, ← same]
  exact ⟨v, _, rfl, rfl⟩

-- The builds, none if their folder is not there.
def AreBuilds (d : Disk) (custom : Path) (builds : List String) : Prop :=
  if d.has custom then d.listFiles custom = .ok builds else builds = []

theorem run_eq (names : List String) (options : FilterOptions) (found : w.disk.listFiles all = .ok copies) (built : AreBuilds w.disk custom builds) :
    ∃ v skipped, v.disk = w.disk ∧ run custom all names options w =
      (do
        let c := collected custom all builds copies
        (steps w.disk c names).forM (perform custom all options.dryRun)
        conclude c names options (steps w.disk c names) skipped : Job FilterResult) v := by
  have known (v : Workspace) (same : v.disk = w.disk) (skipped : List String) :
      ∃ v' skipped', v'.disk = w.disk ∧ (do
        if (builds.filterMap Archive.parse?).isEmpty then
          Job.warn "커스텀 빌드 디렉토리에 아카이브가 없습니다" [("customDir", .string custom.text)]
        proceed custom all names options (builds.filterMap Archive.parse?) skipped : Job FilterResult) v = (do
          let c := collected custom all builds copies
          (steps w.disk c names).forM (perform custom all options.dryRun)
          conclude c names options (steps w.disk c names) skipped' : Job FilterResult) v' := by
    rw [← same] at found ⊢
    split
    · rw [Job.bind_ok (Job.warn_run _ _ v)]
      exact proceed_eq (show (v.noting (.notice ⟨.warn, _, _⟩)).disk.listFiles all = _ from found) skipped
    · exact proceed_eq found skipped
  rw [run_eq_proceed, Job.bind_ok (Job.has_run _ _), if_pos (Disk.has_of_listFiles found)]
  beta_reduce
  rw [Job.bind_ok (Job.has_run _ _)]
  by_cases there : w.disk.has custom = true
  · rw [AreBuilds, if_pos there] at built
    obtain ⟨skipped, v, scanned, same⟩ := scanFolder_run built
    rw [if_pos there, Job.bind_ok scanned]
    exact known v same skipped
  · rw [AreBuilds, if_neg there] at built
    subst built
    rw [if_neg there]
    exact known w rfl []

theorem exists_run (found : w.disk.listFiles all = .ok copies) (built : AreBuilds w.disk custom builds)
    (performed : ∀ v : Workspace, v.disk = w.disk → ∃ v',
      (steps w.disk (collected custom all builds copies) names).forM (perform custom all options.dryRun) v = .ok () v') :
    ∃ result w', run custom all names options w = .ok result w' := by
  obtain ⟨v, skipped, same, ran⟩ := run_eq names options found built
  obtain ⟨v', performed⟩ := performed v same
  obtain ⟨result, v'', concluded, _⟩ := conclude_run (collected custom all builds copies) names options
    (steps w.disk (collected custom all builds copies) names) skipped v'
  exact ⟨result, v'', ran.trans ((Job.bind_ok performed).trans concluded)⟩

theorem listed_of_run {result : FilterResult} (ran : run custom all names options w = .ok result w') :
    ∃ builds copies, AreBuilds w.disk custom builds ∧ w.disk.listFiles all = .ok copies := by
  have copies {v : Workspace} (same : v.disk = w.disk) {archives : List Archive} {skipped : List String}
      (ran : (do
        if archives.isEmpty then
          Job.warn "커스텀 빌드 디렉토리에 아카이브가 없습니다" [("customDir", .string custom.text)]
        proceed custom all names options archives skipped : Job FilterResult) v = .ok result w') :
      ∃ copies, w.disk.listFiles all = .ok copies := by
    split at ran
    · rw [Job.bind_ok (Job.warn_run _ _ v)] at ran
      obtain ⟨_, _, scanned, _⟩ := Job.bind_ok_iff.1 ran
      exact same ▸ (listed_of_scanFolder scanned).1
    · obtain ⟨_, _, scanned, _⟩ := Job.bind_ok_iff.1 ran
      exact same ▸ (listed_of_scanFolder scanned).1
  rw [run_eq_proceed, Job.bind_ok (Job.has_run _ _)] at ran
  by_cases found : w.disk.has all = true
  · rw [if_pos found] at ran
    beta_reduce at ran
    rw [Job.bind_ok (Job.has_run _ _)] at ran
    by_cases there : w.disk.has custom = true
    · rw [if_pos there] at ran
      obtain ⟨_, v, scanned, later⟩ := Job.bind_ok_iff.1 ran
      obtain ⟨⟨builds, listed⟩, same⟩ := listed_of_scanFolder scanned
      obtain ⟨copies, listed'⟩ := copies same later
      exact ⟨builds, copies, by rwa [AreBuilds, if_pos there], listed'⟩
    · rw [if_neg there, Job.bind_ok (Job.pure_run _ w)] at ran
      obtain ⟨copies, listed⟩ := copies rfl ran
      exact ⟨[], copies, by rw [AreBuilds, if_neg there], listed⟩
  · rw [if_neg found] at ran
    cases ran

end Wheelhouse.Filter
