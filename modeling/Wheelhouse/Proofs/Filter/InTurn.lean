import Wheelhouse.Proofs.Filter.Outcome

/-!
Filtering that decides as it goes. A copy is compared with its build when its turn comes, on the disk that
the steps before it have left. None of them changes what a later comparison reads, so the decisions are
those that can be made before anything is changed, and a run that only says what would be done is right.
-/

set_option autoImplicit false

namespace Wheelhouse.Filter

-- A survey from the moment the builds are known.
def surveyCopies (custom all : Path) (customArchives : List Archive) (customSkipped : List String) :
    Job (Collections × List String) := do
  if customArchives.isEmpty then
    Job.warn "커스텀 빌드 디렉토리에 아카이브가 없습니다" [("customDir", .string custom.text)]
  let (allArchives, allSkipped) ← scanFolder all
  return ({ custom, all, customArchives, allArchives }, customSkipped ++ allSkipped)

/-- What is known before anything is changed: the archives of both folders, and the names that cannot be
read. -/
def survey (custom all : Path) : Job (Collections × List String) := do
  unless ← Job.has all do throw (.missing "전체 수집 디렉토리" all.text none)
  let (customArchives, customSkipped) ←
    if ← Job.has custom then scanFolder custom else pure ([], [])
  surveyCopies custom all customArchives customSkipped

def digestOf (p : Path) : Job String := Job.look fun d => d.digest p

/-- The digests of the builds of a package, taken before anything is done with its copies. -/
def buildDigests (custom : Path) (builds : List Archive) : Job (List (String × String)) :=
  builds.mapM fun b => do return (b.filename, ← digestOf (custom.child b.filename))

/-- What is to be done with a copy, by what its file holds now. -/
def judge (c : Collections) (name : String) (digests : List (String × String)) (a : Archive) : Job FilterStep :=
  match digests.lookup a.filename with
  | none => return .remove name a.filename
  | some digest => do
    return if (← digestOf (c.all.child a.filename)) = digest then .keep a.filename else .remove name a.filename

/-- Decides for one archive after the other, and does at once what was decided. -/
def inOrder (c : Collections) (dryRun : Bool) (decide : Archive → Job FilterStep) (archives : List Archive) :
    Job (List FilterStep) :=
  archives.mapM fun a => do
    let step ← decide a
    perform c.custom c.all dryRun step
    return step

/-- The steps for one package, done as they are decided. -/
def inTurn (c : Collections) (dryRun : Bool) (name : String) : Job (List FilterStep) := do
  let customs := ofName name c.customArchives
  if customs.isEmpty then
    perform c.custom c.all dryRun (.leave name)
    return [.leave name]
  else
    let digests ← buildDigests c.custom customs
    let judged ← inOrder c dryRun (judge c name digests) (ofName name c.allArchives)
    let present := judged.filterMap FilterStep.kept?
    let missing := customs.filter fun b => !present.contains b.filename
    let restored ← inOrder c dryRun (fun b => return .restore name b.filename) missing
    return judged ++ restored

/-- The filter that decides as it goes. -/
def runInTurn (custom all : Path) (names : List String) (options : FilterOptions) : Job FilterResult := do
  let (c, skipped) ← survey custom all
  let done ← (targets names).mapM (inTurn c options.dryRun)
  conclude c names options done.flatten skipped

-- What follows the survey if all decisions are made at once.
def follow (c : Collections) (names : List String) (options : FilterOptions) (skipped : List String) :
    Job FilterResult := do
  let steps := steps (← Job.disk) c names
  steps.forM (perform c.custom c.all options.dryRun)
  conclude c names options steps skipped

theorem run_eq_survey (custom all : Path) (names : List String) (options : FilterOptions) :
    run custom all names options = (do
      let (c, skipped) ← survey custom all
      follow c names options skipped) := by
  have known (found : List Archive × List String) : (do
      if found.1.isEmpty then
        Job.warn "커스텀 빌드 디렉토리에 아카이브가 없습니다" [("customDir", .string custom.text)]
      proceed custom all names options found.1 found.2 : Job FilterResult) = (do
        let (c, skipped) ← surveyCopies custom all found.1 found.2
        follow c names options skipped) := by
    unfold surveyCopies
    split <;> simp only [bind_assoc, pure_bind] <;> rfl
  unfold survey
  rw [run_eq_proceed]
  simp only [bind_assoc]
  refine bind_congr fun there => ?_
  split
  · simp only [bind_assoc]
    refine bind_congr fun built => ?_
    split <;> simp only [bind_assoc] <;> exact bind_congr known
  · rfl

variable {custom all : Path} {name f : String} {names builds copies : List String} {w w' : Workspace} {d d' : Disk}

theorem surveyCopies_ok {archives : List Archive} {customSkipped skipped : List String} {c : Collections}
    (ran : surveyCopies custom all archives customSkipped w = .ok (c, skipped) w') :
    w'.disk = w.disk ∧ ∃ copies, w.disk.listFiles all = .ok copies ∧
      c = ⟨custom, all, archives, copies.filterMap Archive.parse?⟩ := by
  have scan {v : Workspace} (ran : (do
      let (allArchives, allSkipped) ← scanFolder all
      return (⟨custom, all, archives, allArchives⟩, customSkipped ++ allSkipped) : Job (Collections × List String)) v =
        .ok (c, skipped) w') :
      w'.disk = v.disk ∧ ∃ copies, v.disk.listFiles all = .ok copies ∧
        c = ⟨custom, all, archives, copies.filterMap Archive.parse?⟩ := by
    obtain ⟨_, u, scanned, ended⟩ := Job.bind_ok_iff.1 ran
    obtain ⟨⟨copies, listed⟩, same⟩ := listed_of_scanFolder scanned
    obtain ⟨_, _, scanned', _⟩ := scanFolder_run listed
    cases scanned.symm.trans scanned'
    cases ended
    exact ⟨same, copies, listed, rfl⟩
  unfold surveyCopies at ran
  split at ran
  · obtain ⟨_, u, warned, later⟩ := Job.bind_ok_iff.1 ran
    cases warned
    have known := scan later
    exact known
  · exact scan ran

theorem survey_ok {c : Collections} {skipped : List String} (ran : survey custom all w = .ok (c, skipped) w') :
    w'.disk = w.disk ∧ ∃ builds copies, AreBuilds w.disk custom builds ∧ w.disk.listFiles all = .ok copies ∧
      c = collected custom all builds copies := by
  unfold survey at ran
  rw [Job.bind_ok (Job.has_run _ _)] at ran
  by_cases found : w.disk.has all = true
  · rw [if_pos found] at ran
    beta_reduce at ran
    rw [Job.bind_ok (Job.has_run _ _)] at ran
    by_cases there : w.disk.has custom = true
    · rw [if_pos there] at ran
      obtain ⟨_, v, scanned, later⟩ := Job.bind_ok_iff.1 ran
      obtain ⟨⟨builds, listed⟩, same⟩ := listed_of_scanFolder scanned
      obtain ⟨_, _, scanned', _⟩ := scanFolder_run listed
      cases scanned.symm.trans scanned'
      obtain ⟨same', copies, found, collected⟩ := surveyCopies_ok later
      rw [same] at same' found
      exact ⟨same', builds, copies, by rwa [AreBuilds, if_pos there], found, collected⟩
    · rw [if_neg there, Job.bind_ok (Job.pure_run _ w)] at ran
      obtain ⟨same, copies, found, collected⟩ := surveyCopies_ok ran
      exact ⟨same, [], copies, by rw [AreBuilds, if_neg there], found, collected⟩
  · rw [if_neg found] at ran
    cases ran

-- What holds when some of the steps have been done.
structure Reached (custom all : Path) (done : List FilterStep) (d d' : Disk) : Prop where
  folder : d'.find? all.bare = some .folder
  builds : ∀ f, d'.find? (custom.bare ++ [f]) = d.find? (custom.bare ++ [f])
  copies : ∀ f, (∀ step ∈ done, ¬Touches f step) → d'.find? (all.bare ++ [f]) = d.find? (all.bare ++ [f])

theorem reached_nil (found : d.listFiles all = .ok copies) : Reached custom all [] d d :=
  ⟨(Disk.mem_of_listFiles found).1, fun _ => rfl, fun _ _ => rfl⟩

theorem keep_mem_steps (built : AreFiles d custom builds)
    (inside : .keep f ∈ steps d (collected custom all builds copies) names) : IsSame d custom all f := by
  obtain ⟨name, _, inside⟩ := List.mem_flatMap.1 inside
  by_cases some : HasBuild d custom name
  · rw [stepsFor_of_build built some] at inside
    simp only [List.mem_append, List.mem_map] at inside
    rcases inside with ⟨a, member, step⟩ | ⟨b, _, step⟩
    · obtain ⟨_, parsed, rfl⟩ := mem_ofName.1 member
      split at step
      · rename_i same
        cases step
        exact (isSame_iff built parsed).1 same
      · cases step
    · cases step
  · rw [stepsFor_of_none built some] at inside
    simp at inside

theorem isIdle_perform_dry (custom all : Path) (step : FilterStep) : Job.IsIdle (perform custom all true step) := by
  cases step with
  | leave name => exact Job.isIdle_record _
  | keep f => exact Job.isIdle_pure ()
  | remove name f => exact Job.isIdle_record _
  | restore name f => exact Job.isIdle_record _

theorem digestOf_ok {p : Path} {digest : String} (known : digest? w.disk p = some digest) :
    digestOf p w = .ok digest w := by
  refine Job.look_ok_iff.2 ⟨?_, rfl⟩
  unfold digest? at known
  cases read : w.disk.digest p with
  | ok _ => rw [read] at known; exact congrArg Except.ok (Option.some.inj known)
  | error _ => rw [read] at known; cases known

theorem digest?_congr {folder : Path} (same : d'.find? (folder.bare ++ [f]) = d.find? (folder.bare ++ [f])) :
    digest? d' (folder.child f) = digest? d (folder.child f) := by
  rw [digest?_child, digest?_child, Disk.file?_congr same]

theorem digest?_of_file (folder : Path) (file : d.file? (folder.bare ++ [f]) ≠ none) :
    ∃ digest, digest? d (folder.child f) = some digest := by
  obtain ⟨contents, file⟩ := Option.ne_none_iff_exists'.1 file
  rw [digest?_child, file]
  exact ⟨_, rfl⟩

-- The digests that are looked up are those of the disk.
theorem buildDigests_ok {archives : List Archive}
    (files : ∀ b ∈ archives, w.disk.file? (custom.bare ++ [b.filename]) ≠ none) :
    ∃ digests, buildDigests custom archives w = .ok digests w ∧ ∀ f, digests.lookup f =
      if archives.any (fun b => b.filename = f) then digest? w.disk (custom.child f) else none := by
  induction archives with
  | nil => exact ⟨[], rfl, fun f => rfl⟩
  | cons b archives ih =>
    obtain ⟨first, later⟩ := List.forall_mem_cons.1 files
    obtain ⟨digest, known⟩ := digest?_of_file custom first
    obtain ⟨digests, ran, found⟩ := ih later
    have head : (do return (b.filename, ← digestOf (custom.child b.filename)) : Job (String × String)) w =
        .ok (b.filename, digest) w := Job.bind_ok (digestOf_ok known)
    refine ⟨(b.filename, digest) :: digests, Job.mapM_cons_ok_iff.2 ⟨_, _, _, head, ran, rfl⟩, fun f => ?_⟩
    rw [List.lookup_cons, found, List.any_cons]
    by_cases here : b.filename = f
    · subst here
      simp [known]
    · simp [here, beq_eq_false_iff_ne.2 (Ne.symm here)]

-- What is planned for a copy of a package with builds.
def judgement (d : Disk) (c : Collections) (name : String) (a : Archive) : FilterStep :=
  if isSame d c (ofName name c.customArchives) a then .keep a.filename else .remove name a.filename

theorem filterMap_kept? (c : Collections) (archives : List Archive) :
    (archives.map (judgement d c name)).filterMap FilterStep.kept? =
      (archives.filter (isSame d c (ofName name c.customArchives))).map Archive.filename := by
  induction archives with
  | nil => rfl
  | cons a archives ih =>
    rw [List.map_cons, List.filter_cons, judgement]
    split
    · exact congrArg _ ih
    · exact ih

-- The builds that are copied are those that the kept copies leave out.
theorem stepsFor_eq {c : Collections} (filled : ¬(ofName name c.customArchives).isEmpty = true) :
    stepsFor d c name = (ofName name c.allArchives).map (judgement d c name) ++
      ((ofName name c.customArchives).filter fun b =>
        !(((ofName name c.allArchives).map (judgement d c name)).filterMap FilterStep.kept?).contains b.filename).map
          fun b => .restore name b.filename := by
  have others (b : Archive) (present : List Archive) :
      (present.all fun a => a.filename != b.filename) = !(present.map Archive.filename).contains b.filename := by
    rw [Bool.eq_iff_iff]
    simp
  simp only [filterMap_kept?, ← others]
  exact if_neg filled

section Planned

variable {dryRun : Bool} {step : FilterStep} {done rest : List FilterStep}
  (built : AreFiles d custom builds) (found : d.listFiles all = .ok copies)

include built found

theorem not_isSame_of_touches (inside : step ∈ steps d (collected custom all builds copies) names)
    (touches : Touches f step) : ¬IsSame d custom all f := by
  obtain ⟨name, rfl | rfl⟩ := touches
  · exact ((remove_mem_steps built).1 inside).2.2.2.2
  · exact ((restore_mem_steps built (areFiles_of_listFiles found)).1 inside).2.2.2

-- A folder that is compared with itself has nothing to be removed or copied.
theorem apart_of_touches (inside : step ∈ steps d (collected custom all builds copies) names)
    (touches : Touches f step) : custom.bare ≠ all.bare := by
  intro same
  exact idle_of_settled built (areFiles_of_listFiles found) (settled_of_same same d names) step inside f touches

theorem untouched_of_judged (planned : steps d (collected custom all builds copies) names = done ++ step :: rest)
    (judged : step = .keep f ∨ ∃ name, step = .remove name f) : ∀ s ∈ done, ¬Touches f s := by
  intro s early touches
  have inside : s ∈ steps d (collected custom all builds copies) names := planned ▸ List.mem_append_left _ early
  rcases judged with rfl | ⟨name, rfl⟩
  · have kept : .keep f ∈ steps d (collected custom all builds copies) names := by simp [planned]
    exact not_isSame_of_touches built found inside touches (keep_mem_steps built kept)
  · have order : (done ++ .remove name f :: rest).Pairwise Spares := by
      rw [← planned]
      exact pairwise_steps built (areFiles_of_listFiles found) (Disk.nodup_of_listFiles found)
    exact (List.pairwise_append.1 order).2.2 s early _ List.mem_cons_self name f rfl touches

theorem Reached.canPerform (planned : steps d (collected custom all builds copies) names = done ++ step :: rest)
    (reached : Reached custom all done d d') : CanPerform custom all [step] d' where
  folder := reached.folder
  removable name f inside := by
    obtain rfl := List.mem_singleton.1 inside
    have untouched := untouched_of_judged built found planned (.inr ⟨name, rfl⟩)
    rw [Disk.file?_congr (reached.copies f untouched)]
    exact (Filter.canPerform found built).removable name f (by rw [planned]; simp)
  buildable name f inside := by
    obtain rfl := List.mem_singleton.1 inside
    rw [Disk.file?_congr (reached.builds f)]
    exact (Filter.canPerform found built).buildable name f (by rw [planned]; simp)

theorem Reached.perform (planned : steps d (collected custom all builds copies) names = done ++ step :: rest)
    (reached : Reached custom all done d w.disk) (ran : perform custom all dryRun step w = .ok () w') :
    Reached custom all (done ++ [step]) d w'.disk := by
  have inside : step ∈ steps d (collected custom all builds copies) names := by simp [planned]
  have still {q : Path} (untouched : ∀ f, q = all.bare ++ [f] → ¬Touches f step) :
      w'.disk.find? q = w.disk.find? q := by
    cases dryRun with
    | true =>
      obtain ⟨_, v, ran', same⟩ := isIdle_perform_dry custom all step w
      cases ran.symm.trans ran'
      rw [same]
    | false =>
      rw [perform_ok (reached.canPerform built found planned) ran, left_of_untouched untouched]
  refine ⟨?_, fun f => ?_, fun f untouched => ?_⟩
  · rw [still fun f same => by simp at same, reached.folder]
  · rw [still, reached.builds]
    intro g same touches
    exact apart_of_touches built found inside touches (List.append_inj' same rfl).1
  · rw [still, reached.copies f fun s early => untouched s (List.mem_append_left _ early)]
    intro g same
    obtain rfl : f = g := by simpa using same
    exact untouched step (by simp)

theorem Reached.forM {middle : List FilterStep}
    (planned : steps d (collected custom all builds copies) names = done ++ (middle ++ rest))
    (reached : Reached custom all done d w.disk)
    (ran : middle.forM (Filter.perform custom all dryRun) w = .ok () w') :
    Reached custom all (done ++ middle) d w'.disk := by
  induction middle generalizing done w with
  | nil =>
    cases ran
    rwa [List.append_nil]
  | cons step middle ih =>
    rw [Job.forM_cons] at ran
    obtain ⟨_, v, first, later⟩ := Job.bind_ok_iff.1 ran
    have next := reached.perform built found planned first
    rw [List.append_cons]
    exact ih (by rw [planned]; simp) next later

theorem inOrder_eq (dryRun : Bool) {decide : Archive → Job FilterStep} {plan : Archive → FilterStep} {archives : List Archive}
    (planned : steps d (collected custom all builds copies) names = done ++ (archives.map plan ++ rest))
    (reached : Reached custom all done d w.disk)
    (decides : ∀ a ∈ archives, ∀ earlier later v,
      steps d (collected custom all builds copies) names = earlier ++ plan a :: later →
      Reached custom all earlier d v.disk → decide a v = .ok (plan a) v) :
    inOrder (collected custom all builds copies) dryRun decide archives w =
      ((archives.map plan).forM (Filter.perform custom all dryRun) >>= fun _ => pure (archives.map plan)) w := by
  induction archives generalizing done w with
  | nil => rfl
  | cons a archives ih =>
    have decided := decides a List.mem_cons_self done _ w planned reached
    unfold inOrder at ih ⊢
    simp only [List.mapM_cons, bind_assoc, pure_bind, List.map_cons, Job.forM_cons]
    rw [Job.bind_ok decided]
    refine Job.bind_congr fun _ v ran => ?_
    have next := reached.perform built found planned ran
    have later := ih (by rw [planned]; simp) next fun b inside => decides b (List.mem_cons_of_mem _ inside)
    rw [Job.bind_congr_left later]
    simp only [bind_assoc, pure_bind]

-- What is decided for a copy when its turn comes is what was planned for it.
theorem judge_ok {a : Archive} {digests : List (String × String)}
    (copy : a ∈ ofName name (collected custom all builds copies).allArchives)
    (planned : steps d (collected custom all builds copies) names =
      done ++ judgement d (collected custom all builds copies) name a :: rest)
    (reached : Reached custom all done d w.disk)
    (known : ∀ f, digests.lookup f =
      if (ofName name (collected custom all builds copies).customArchives).any (fun b => b.filename = f)
      then digest? d (custom.child f) else none) :
    judge (collected custom all builds copies) name digests a w =
      .ok (judgement d (collected custom all builds copies) name a) w := by
  have untouched : ∀ s ∈ done, ¬Touches a.filename s := by
    refine untouched_of_judged built found planned ?_
    unfold judgement
    split
    · exact .inl rfl
    · exact .inr ⟨name, rfl⟩
  obtain ⟨digest, there⟩ := digest?_of_file all ((areFiles_of_listFiles found _).1 (mem_ofName.1 copy).1)
  have now : digestOf (all.child a.filename) w = .ok digest w :=
    digestOf_ok ((digest?_congr (reached.copies _ untouched)).trans there)
  have same : isSame d (collected custom all builds copies)
      (ofName name (collected custom all builds copies).customArchives) a =
        decide (digests.lookup a.filename = some digest) := by
    change (_ && decide (digest? d (custom.child _) = digest? d (all.child _))) = _
    rw [known, there]
    split <;> simp_all
  rw [judgement, same]
  unfold judge
  cases digests.lookup a.filename with
  | none => rfl
  | some digest' =>
    refine (Job.bind_ok now).trans ?_
    simp [eq_comm]

theorem inTurn_eq_of_build (filled : ¬(ofName name (collected custom all builds copies).customArchives).isEmpty = true)
    (planned : steps d (collected custom all builds copies) names =
      done ++ (stepsFor d (collected custom all builds copies) name ++ rest))
    (reached : Reached custom all done d w.disk) :
    inTurn (collected custom all builds copies) dryRun name w =
      ((stepsFor d (collected custom all builds copies) name).forM (Filter.perform custom all dryRun) >>= fun _ =>
        pure (stepsFor d (collected custom all builds copies) name)) w := by
  have files : ∀ b ∈ ofName name (collected custom all builds copies).customArchives,
      w.disk.file? (custom.bare ++ [b.filename]) ≠ none := by
    intro b inside
    rw [Disk.file?_congr (reached.builds _)]
    exact (built _).1 (mem_ofName.1 inside).1
  obtain ⟨digests, ran, known⟩ := buildDigests_ok files
  rw [stepsFor_eq filled] at planned ⊢
  rw [List.append_assoc] at planned
  have known (f : String) := (known f).trans (if_congr Iff.rfl (digest?_congr (reached.builds f)) rfl)
  have judged := inOrder_eq built found dryRun planned reached fun a copy earlier later v planned here =>
    judge_ok built found copy planned here known
  rw [Job.forM_append, bind_assoc]
  unfold inTurn
  rw [if_neg filled]
  refine (Job.bind_ok ran).trans ?_
  rw [Job.bind_congr_left judged, bind_assoc]
  refine Job.bind_congr fun _ v did => ?_
  have next := reached.forM built found planned did
  rw [pure_bind]
  have copied := inOrder_eq built found dryRun (planned.trans (List.append_assoc done _ _).symm) next
    fun b _ _ _ u _ _ => Job.pure_run (FilterStep.restore name b.filename) u
  rw [Job.bind_congr_left copied]
  simp only [bind_assoc, pure_bind]

theorem inTurn_eq (planned : steps d (collected custom all builds copies) names =
      done ++ (stepsFor d (collected custom all builds copies) name ++ rest))
    (reached : Reached custom all done d w.disk) :
    inTurn (collected custom all builds copies) dryRun name w =
      ((stepsFor d (collected custom all builds copies) name).forM (Filter.perform custom all dryRun) >>= fun _ =>
        pure (stepsFor d (collected custom all builds copies) name)) w := by
  by_cases empty : (ofName name (collected custom all builds copies).customArchives).isEmpty = true
  · have leaves : stepsFor d (collected custom all builds copies) name = [.leave name] := if_pos empty
    rw [leaves, Job.forM_cons, bind_assoc]
    unfold inTurn
    rw [if_pos empty]
    rfl
  · exact inTurn_eq_of_build built found empty planned reached

theorem mapM_inTurn_eq (dryRun : Bool) {wanted : List String}
    (planned : steps d (collected custom all builds copies) names =
      done ++ wanted.flatMap (stepsFor d (collected custom all builds copies)))
    (reached : Reached custom all done d w.disk) :
    wanted.mapM (inTurn (collected custom all builds copies) dryRun) w =
      ((wanted.flatMap (stepsFor d (collected custom all builds copies))).forM (Filter.perform custom all dryRun)
        >>= fun _ => pure (wanted.map (stepsFor d (collected custom all builds copies)))) w := by
  induction wanted generalizing done w with
  | nil => rfl
  | cons name wanted ih =>
    rw [List.flatMap_cons] at planned ⊢
    rw [List.mapM_cons, Job.bind_congr_left (inTurn_eq built found planned reached), Job.forM_append, bind_assoc,
      bind_assoc]
    refine Job.bind_congr fun _ v ran => ?_
    have next := reached.forM built found planned ran
    rw [pure_bind, Job.bind_congr_left (ih (by rw [planned]; simp) next)]
    simp only [bind_assoc, pure_bind, List.map_cons]

end Planned

-- Whatever is there and however it ends, deciding as it goes makes no difference.
theorem runInTurn_eq (custom all : Path) (names : List String) (options : FilterOptions) :
    runInTurn custom all names options = run custom all names options := by
  funext w
  rw [run_eq_survey]
  refine Job.bind_congr fun surveyed v ran => ?_
  obtain ⟨c, skipped⟩ := surveyed
  obtain ⟨same, builds, copies, built, found, rfl⟩ := survey_ok ran
  rw [← same] at built found
  have planned : steps v.disk (collected custom all builds copies) names =
      [] ++ (targets names).flatMap (stepsFor v.disk (collected custom all builds copies)) := rfl
  have ran := mapM_inTurn_eq built.areFiles found options.dryRun planned (reached_nil found)
  refine (Job.bind_congr_left ran _).trans ?_
  simp only [bind_assoc, pure_bind, ← List.flatMap_def]
  rfl

theorem mem_removed {steps : List FilterStep} :
    f ∈ steps.filterMap FilterStep.removed? ↔ ∃ name, .remove name f ∈ steps := by
  rw [List.mem_filterMap]
  constructor
  · rintro ⟨step, inside, removed⟩
    cases step with
    | remove name g =>
      cases removed
      exact ⟨name, inside⟩
    | leave name => cases removed
    | keep g => cases removed
    | restore name g => cases removed
  · rintro ⟨name, inside⟩
    exact ⟨_, inside, rfl⟩

theorem mem_restored {steps : List FilterStep} :
    f ∈ steps.filterMap FilterStep.restored? ↔ ∃ name, .restore name f ∈ steps := by
  rw [List.mem_filterMap]
  constructor
  · rintro ⟨step, inside, restored⟩
    cases step with
    | restore name g =>
      cases restored
      exact ⟨name, inside⟩
    | leave name => cases restored
    | keep g => cases restored
    | remove name g => cases restored
  · rintro ⟨name, inside⟩
    exact ⟨_, inside, rfl⟩

-- What a run reports that is not asked to validate anything.
def report (steps : List FilterStep) (skipped : List String) : FilterResult :=
  { removed := steps.filterMap FilterStep.removed?
    kept := steps.filterMap FilterStep.kept?
    restored := steps.filterMap FilterStep.restored?
    noCustomBuild := steps.filterMap FilterStep.left?
    skipped
    validation := none }

theorem conclude_report (c : Collections) (names : List String) (dryRun : Bool) (steps : List FilterStep)
    (skipped : List String) (w : Workspace) :
    ∃ v, conclude c names ⟨none, dryRun⟩ steps skipped w = .ok (report steps skipped) v ∧ v.disk = w.disk :=
  ⟨_, rfl, rfl⟩

variable {result : FilterResult}

theorem follow_run (c : Collections) (names : List String) (options : FilterOptions) (skipped : List String)
    (w : Workspace) : follow c names options skipped w = ((steps w.disk c names).forM
      (perform c.custom c.all options.dryRun) >>= fun _ =>
        conclude c names options (steps w.disk c names) skipped) w := rfl

theorem reported_of_run {dryRun : Bool} (ran : run custom all names ⟨none, dryRun⟩ w = .ok result w') :
    ∃ builds copies skipped, AreBuilds w.disk custom builds ∧ w.disk.listFiles all = .ok copies ∧
      result = report (steps w.disk (collected custom all builds copies) names) skipped ∧
      ∃ v, run custom all names ⟨none, true⟩ w = .ok result v ∧ v.disk = w.disk := by
  rw [run_eq_survey] at ran ⊢
  obtain ⟨⟨c, skipped⟩, u, surveyed, followed⟩ := Job.bind_ok_iff.1 ran
  obtain ⟨same, builds, copies, built, found, rfl⟩ := survey_ok surveyed
  have followed := (follow_run _ names ⟨none, dryRun⟩ skipped u).symm.trans followed
  rw [same] at followed
  obtain ⟨_, u', _, concluded⟩ := Job.bind_ok_iff.1 followed
  obtain ⟨_, reported, _⟩ := conclude_report (collected custom all builds copies) names dryRun
    (steps w.disk (collected custom all builds copies) names) skipped u'
  cases concluded.symm.trans reported
  obtain ⟨_, v, performed, same'⟩ := Job.isIdle_forM
    (fun step (_ : step ∈ steps w.disk (collected custom all builds copies) names) =>
      isIdle_perform_dry custom all step) u
  obtain ⟨v', reported', same''⟩ := conclude_report (collected custom all builds copies) names true
    (steps w.disk (collected custom all builds copies) names) skipped v
  refine ⟨builds, copies, skipped, built, found, rfl, v', ?_, same''.trans (same'.trans same)⟩
  refine (Job.bind_ok surveyed).trans ((follow_run _ names ⟨none, true⟩ skipped u).trans ?_)
  rw [same]
  exact (Job.bind_ok performed).trans reported'

-- What a run has done, also when both folders are the same and there is nothing to do.
theorem performed_by_run (built : AreBuilds w.disk custom builds) (found : w.disk.listFiles all = .ok copies)
    (ran : run custom all names ⟨none, false⟩ w = .ok result w') :
    Performed custom all (steps w.disk (collected custom all builds copies) names) w.disk w'.disk := by
  by_cases apart : custom.bare = all.bare
  · have settled := settled_of_same apart w.disk names
    have idle := idle_of_settled built.areFiles (areFiles_of_listFiles found) settled
    obtain ⟨_, _, ran', same, _⟩ := run_of_settled none found built settled
    cases ran.symm.trans ran'
    exact ⟨fun name f inside => absurd ⟨name, .inr rfl⟩ (idle _ inside f),
      fun name f inside => absurd ⟨name, .inl rfl⟩ (idle _ inside f), fun q _ => by rw [same]⟩
  · exact performed_of_run apart found built ran

-- Each place is as it was, or one where a build has been copied or a file taken away.
theorem Performed.cases {steps : List FilterStep} (done : Performed custom all steps d d') (q : Path) :
    d'.find? q = d.find? q ∨ ∃ f, q = all.bare ++ [f] ∧ ((∃ name, .restore name f ∈ steps) ∨
      (∃ name, .remove name f ∈ steps) ∧ (∀ name, .restore name f ∉ steps) ∧ d'.find? q = none) := by
  by_cases touched : ∃ f, q = all.bare ++ [f] ∧ ∃ step ∈ steps, Touches f step
  · obtain ⟨f, rfl, step, inside, touches⟩ := touched
    refine .inr ⟨f, rfl, ?_⟩
    by_cases again : ∃ name, .restore name f ∈ steps
    · exact .inl again
    · have missing : ∀ name, .restore name f ∉ steps := fun name inside => again ⟨name, inside⟩
      obtain ⟨name, rfl | rfl⟩ := touches
      · exact .inr ⟨⟨name, inside⟩, missing, done.removed name f inside missing⟩
      · exact absurd ⟨name, inside⟩ again
  · exact .inl (done.kept q (.inr fun f here step inside touches => touched ⟨f, here, step, inside, touches⟩))

theorem Performed.file?_new {steps : List FilterStep} {q : Path} (done : Performed custom all steps d d')
    (there : d'.file? q ≠ none) (other : d'.file? q ≠ d.file? q) :
    ∃ f, (∃ name, .restore name f ∈ steps) ∧ q = all.bare ++ [f] := by
  rcases done.cases q with same | ⟨f, rfl, restored | ⟨_, _, gone⟩⟩
  · exact absurd (Disk.file?_congr same) other
  · exact ⟨f, restored, rfl⟩
  · exact absurd (by rw [Disk.file?, gone]) there

section Left

variable {steps : List FilterStep} {q : Path}
  (can : CanPerform custom all steps d) (done : Performed custom all steps d d')

include can done

theorem Performed.restored_file (inside : .restore name f ∈ steps) :
    ∃ contents, d'.find? (all.bare ++ [f]) = some (.file contents) := by
  obtain ⟨contents, file⟩ := Option.ne_none_iff_exists'.1 (can.buildable name f inside)
  exact ⟨contents, (done.restored name f inside).trans (Disk.file?_eq_some_iff.1 file)⟩

theorem Performed.file?_gone_iff : (d.file? q ≠ none ∧ d'.file? q = none) ↔
    ∃ f, (∃ name, .remove name f ∈ steps) ∧ (¬∃ name, .restore name f ∈ steps) ∧ q = all.bare ++ [f] := by
  constructor
  · rintro ⟨there, gone⟩
    rcases done.cases q with same | ⟨f, rfl, ⟨name, inside⟩ | ⟨removed, missing, _⟩⟩
    · exact absurd ((Disk.file?_congr same).symm.trans gone) there
    · obtain ⟨contents, file⟩ := done.restored_file can inside
      rw [Disk.file?_eq_some_iff.2 file] at gone
      cases gone
    · exact ⟨f, removed, fun again => missing _ again.choose_spec, rfl⟩
  · rintro ⟨f, ⟨name, inside⟩, missing, rfl⟩
    have gone := done.removed name f inside fun n again => missing ⟨n, again⟩
    exact ⟨can.removable name f inside, by rw [Disk.file?, gone]⟩

theorem Performed.folder_iff : d'.find? q = some .folder ↔ d.find? q = some .folder := by
  constructor
  · intro folder
    rcases done.cases q with same | ⟨f, rfl, ⟨name, inside⟩ | ⟨_, _, gone⟩⟩
    · rw [← same, folder]
    · obtain ⟨contents, file⟩ := done.restored_file can inside
      cases folder.symm.trans file
    · cases folder.symm.trans gone
  · intro folder
    rw [done.kept q (.inl folder), folder]

end Left

/-- A run that only says what would be done, from the same start, reports what a real run reports, and
changes nothing. What a real run takes away are exactly the files that it reports as removed and not as
copied; what it adds or changes are files that it reports as copied. This is so although the real run decides
about each file when its turn comes. -/
theorem dry_run_predicts (ran : run custom all names ⟨none, false⟩ w = .ok result w') :
    (∀ options v, runInTurn custom all names options v = run custom all names options v) ∧
      (∃ v, run custom all names ⟨none, true⟩ w = .ok result v ∧ v.disk = w.disk) ∧
      (∀ q, (w.disk.file? q ≠ none ∧ w'.disk.file? q = none) ↔
        ∃ f ∈ result.removed, f ∉ result.restored ∧ q = all.bare ++ [f]) ∧
      (∀ q, w'.disk.file? q ≠ none → w'.disk.file? q ≠ w.disk.file? q →
        ∃ f ∈ result.restored, q = all.bare ++ [f]) ∧
      ∀ q, w'.disk.find? q = some .folder ↔ w.disk.find? q = some .folder := by
  obtain ⟨builds, copies, skipped, built, found, rfl, dry⟩ := reported_of_run ran
  have done := performed_by_run built found ran
  have can : CanPerform custom all (steps w.disk (collected custom all builds copies) names) w.disk :=
    canPerform found built.areFiles
  refine ⟨fun options v => by rw [runInTurn_eq], dry, fun q => ?_, fun q there other => ?_, fun q => ?_⟩
  · rw [done.file?_gone_iff can]
    simp only [report, mem_removed, mem_restored]
  · simp only [report, mem_restored]
    exact done.file?_new there other
  · exact done.folder_iff can

section Sample

theorem dry_run_predicts_sample : ∃ (result : FilterResult) (w : Workspace),
    run ["c"] ["a"] ["Apex"] ⟨none, false⟩ sampleWorkspace = .ok result w ∧
      runInTurn ["c"] ["a"] ["Apex"] ⟨none, false⟩ sampleWorkspace = .ok result w ∧
      (∃ v, run ["c"] ["a"] ["Apex"] ⟨none, true⟩ sampleWorkspace = .ok result v ∧ v.disk = sampleDisk) ∧
      (w.disk.file? ["a", "apex-2.zip"] = none ↔ "apex-2.zip" ∈ result.removed ∧ "apex-2.zip" ∉ result.restored) := by
  obtain ⟨result, w, ran⟩ := sample_ran
  obtain ⟨inTurn, dry, gone, _⟩ := dry_run_predicts ran
  refine ⟨result, w, ran, (inTurn _ _).trans ran, dry, ?_⟩
  have there : sampleWorkspace.disk.file? ["a", "apex-2.zip"] ≠ none := by decide
  refine ⟨fun missing => ?_, fun reported => ((gone _).2 ⟨_, reported.1, reported.2, rfl⟩).2⟩
  obtain ⟨f, removed, kept, same⟩ := (gone _).1 ⟨there, missing⟩
  obtain rfl : "apex-2.zip" = f := (List.cons.inj (List.cons.inj same).2).1
  exact ⟨removed, kept⟩

end Sample

end Wheelhouse.Filter
