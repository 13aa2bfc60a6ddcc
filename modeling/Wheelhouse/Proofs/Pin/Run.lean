import Wheelhouse.Pin.Run
import Wheelhouse.Proofs.Disk.Operations
import Wheelhouse.Proofs.Disk.Walk
import Wheelhouse.Proofs.Job
import Wheelhouse.Proofs.Pin.Selection

/-!
Pinning a second time. A run reads the folder and the requirement file and writes the file only when its
text changes. The next run finds the same archives and the lines that pin them.
-/

set_option autoImplicit false

namespace Wheelhouse.Pin

-- What a run finds out from a listing and the text of the file.
def outcome (requirements : Path) (mapping : Mapping) (files : List String) (text : String) : PinResult :=
  let selection := Selection.ofFiles mapping files
  let new := RequirementFile.pin text selection.candidates
  { requirements, pinned := new.2, skipped := selection.skipped, ignored := selection.ignored,
    changed := new.1 != text, content := new.1 }

variable {install requirements : Path} {options : PinOptions} {result : PinResult} {w w' : Workspace}
variable {files : List String} {bytes : ByteArray} {d : Disk}

-- How a run ends: the new text is written if there is one.
def finish (requirements : Path) (dryRun : Bool) (made : PinResult) : Job PinResult := do
  if made.changed && !dryRun then Job.writeText requirements made.content
  Job.info "requirements 고정 완료"
    [("requirementsPath", .string requirements.text),
      ("pinned", Selection.strings (made.pinned.map Pinned.line)),
      ("skipped", .number (.ofNat made.skipped.length)), ("changed", .bool made.changed),
      ("dryRun", .bool dryRun)]
  return made

theorem run_eq (options : PinOptions) (listed : w.disk.listFiles install = .ok files) (read : w.disk.readFile requirements = .ok bytes) :
    ∃ v : Workspace, v.disk = w.disk ∧ run install requirements options w =
      finish requirements options.dryRun (outcome requirements options.mapping files (Text.decode bytes)) v := by
  have folder := Disk.has_of_listFiles listed
  have file := (Disk.readFile_ok read).1
  have text (events : List Event) : Job.readText requirements { w with trace := events } =
      .ok (Text.decode bytes) { w with trace := events } :=
    Job.readText_ok_iff.2 ⟨bytes, read, rfl, rfl⟩
  unfold run
  rw [Job.bind_ok (Job.has_run _ _), file]
  simp only [if_true]
  rw [Job.bind_ok (Job.has_run _ _), folder]
  simp only [if_true]
  rw [Job.bind_ok (Job.look_ok_iff.2 ⟨listed, rfl⟩), Job.bind_ok (Job.forM_record_run _ _ _),
    Job.bind_ok (text _), Job.bind_ok (Job.forM_record_run _ _ _)]
  refine ⟨_, ?_, rfl⟩
  rfl

theorem finish_ok_iff {made : PinResult} {dryRun : Bool} :
    (∃ w', finish requirements dryRun made w = .ok result w' ∧ w'.disk = d) ↔
      result = made ∧ if made.changed && !dryRun then
        w.disk.writeFile requirements (Text.encode made.content) = .ok d else d = w.disk := by
  unfold finish
  by_cases writes : (made.changed && !dryRun) = true
  · simp only [writes, if_true]
    constructor
    · rintro ⟨w', ran, rfl⟩
      obtain ⟨_, v, wrote, noted⟩ := Job.bind_ok_iff.1 ran
      obtain ⟨d', written, rfl⟩ := Job.writeText_ok_iff.1 wrote
      cases noted
      exact ⟨rfl, written⟩
    · rintro ⟨rfl, written⟩
      rw [Job.bind_ok (Job.writeText_ok_iff.2 ⟨d, written, rfl⟩)]
      exact ⟨_, rfl, rfl⟩
  · simp only [writes, if_false, Bool.false_eq_true]
    constructor
    · rintro ⟨w', noted, rfl⟩
      cases noted
      exact ⟨rfl, rfl⟩
    · rintro ⟨rfl, rfl⟩
      exact ⟨_, rfl, rfl⟩

theorem read_of_run (ran : run install requirements options w = .ok result w') :
    ∃ files bytes, w.disk.listFiles install = .ok files ∧ w.disk.readFile requirements = .ok bytes := by
  unfold run at ran
  rw [Job.bind_ok (Job.has_run _ _)] at ran
  by_cases file : w.disk.has requirements = true
  · simp only [file, if_true] at ran
    rw [Job.bind_ok (Job.has_run _ _)] at ran
    by_cases folder : w.disk.has install = true
    · simp only [folder, if_true] at ran
      obtain ⟨files, v, looked, noted⟩ := Job.bind_ok_iff.1 ran
      obtain ⟨listed, rfl⟩ := Job.look_ok_iff.1 looked
      rw [Job.bind_ok (Job.forM_record_run _ _ _)] at noted
      obtain ⟨text, v, found, _⟩ := Job.bind_ok_iff.1 noted
      obtain ⟨bytes, read, _⟩ := Job.readText_ok_iff.1 found
      exact ⟨files, bytes, listed, read⟩
    · simp only [folder, Bool.false_eq_true, if_false] at ran
      cases ran
  · simp only [file, Bool.false_eq_true, if_false] at ran
    cases ran

-- A run that succeeds has read both, and leaves the disk as it is unless the text has changed.
theorem run_ok_iff : (∃ w', run install requirements options w = .ok result w' ∧ w'.disk = d) ↔
    ∃ files bytes, w.disk.listFiles install = .ok files ∧ w.disk.readFile requirements = .ok bytes ∧
      result = outcome requirements options.mapping files (Text.decode bytes) ∧
      if result.changed && !options.dryRun then
        w.disk.writeFile requirements (Text.encode result.content) = .ok d
      else d = w.disk := by
  constructor
  · rintro ⟨w', ran, left⟩
    obtain ⟨files, bytes, listed, read⟩ := read_of_run ran
    obtain ⟨v, same, ends⟩ := run_eq options listed read
    obtain ⟨rfl, written⟩ := finish_ok_iff.1 ⟨w', ends ▸ ran, left⟩
    exact ⟨files, bytes, listed, read, rfl, same ▸ written⟩
  · rintro ⟨files, bytes, listed, read, rfl, written⟩
    obtain ⟨v, same, ends⟩ := run_eq options listed read
    rw [ends]
    exact finish_ok_iff.2 ⟨rfl, same.symm ▸ written⟩

theorem run_of_file (folder : w.disk.find? install.bare = some .folder)
    (file : w.disk.find? requirements = some (.file bytes)) (near : requirements.isFarTooLong = false) :
    ∃ result w', run install requirements options w = .ok result w' := by
  have listed : w.disk.listFiles install = .ok (Text.sorted (Disk.fileNames (w.disk.children install.bare))) := by
    rw [Disk.listFiles, Disk.list_of_find? folder]
    rfl
  let made := outcome requirements options.mapping
    (Text.sorted (Disk.fileNames (w.disk.children install.bare))) (Text.decode bytes)
  have leaves : ∃ d, if made.changed && !options.dryRun then
      w.disk.writeFile requirements (Text.encode made.content) = .ok d else d = w.disk := by
    split
    · exact ⟨_, Disk.writeFile_of_file file near _⟩
    · exact ⟨_, rfl⟩
  obtain ⟨d, left⟩ := leaves
  obtain ⟨w', ran, _⟩ := run_ok_iff.2 ⟨_, bytes, listed, Disk.readFile_of_find? file, rfl, left⟩
  exact ⟨_, w', ran⟩

-- The next run lists the same files, and reads the text that this one found.
theorem left_by_run (listed : w.disk.listFiles install = .ok files) (read : w.disk.readFile requirements = .ok bytes)
    {made : PinResult} (changes : made.changed = (made.content != Text.decode bytes))
    (written : if made.changed && !false then w.disk.writeFile requirements (Text.encode made.content) = .ok d
      else d = w.disk) :
    d.listFiles install = .ok files ∧ ∃ bytes', d.readFile requirements = .ok bytes' ∧
      Text.decode bytes' = made.content := by
  split at written
  · obtain ⟨fits, rfl⟩ := Disk.writeFile_ok written
    have file := (Disk.readFile_ok read).2
    have text : (w.disk.put requirements (.file (Text.encode made.content))).find? requirements =
        some (.file (Text.encode made.content)) := by rw [Disk.find?_put fits, if_pos rfl]
    exact ⟨Disk.listFiles_put fits file listed, _, Disk.readFile_of_find? text, Text.decode_encode _⟩
  · rename_i kept
    subst written
    have same : made.content = Text.decode bytes := by simpa [changes] using kept
    exact ⟨listed, bytes, read, same.symm⟩

/-- Pinning again with the same mapping changes nothing: every package that was pinned is pinned already, no
line is replaced, and the disk is left as it is. -/
theorem run_again {mapping : Mapping} (named : ∀ e ∈ mapping, PackageName.isName e.name = true)
    (ran : run install requirements ⟨mapping, false⟩ w = .ok result w') :
    (∀ e ∈ Mapping.builtIn, PackageName.isName e.name = true) ∧
      ∃ again w'', run install requirements ⟨mapping, false⟩ w' = .ok again w'' ∧ again.changed = false ∧
        again.pinned.map Pinned.candidate = result.pinned.map Pinned.candidate ∧
        (∀ p ∈ again.pinned, p.alreadyPinned = true ∧ p.replaced = []) ∧ w''.disk = w'.disk := by
  refine ⟨by decide +kernel, ?_⟩
  obtain ⟨files, bytes, listed, read, rfl, written⟩ := run_ok_iff.1 ⟨w', ran, rfl⟩
  obtain ⟨listed', bytes', read', text⟩ := left_by_run listed read rfl written
  have twice := RequirementFile.pin_pin (Selection.distinct_candidates mapping files)
    (Selection.isWritten_candidates named files) (Text.decode bytes)
  change Text.decode bytes' = (RequirementFile.pin (Text.decode bytes) _).1 at text
  rw [← text] at twice
  let again := outcome requirements mapping files (Text.decode bytes')
  have unchanged : again.changed = false := by simp [again, outcome, twice]
  have pinned : again.pinned = (Selection.ofFiles mapping files).candidates.map fun c => ⟨c, [], true⟩ := by
    simp [again, outcome, twice]
  have ends : ∃ w'', run install requirements ⟨mapping, false⟩ w' = .ok again w'' ∧ w''.disk = w'.disk :=
    run_ok_iff.2 ⟨files, bytes', listed', read', rfl, by simp [unchanged]⟩
  obtain ⟨w'', ran', left⟩ := ends
  have first : (outcome requirements mapping files (Text.decode bytes)).pinned.map Pinned.candidate =
      (Selection.ofFiles mapping files).candidates := RequirementFile.pin_candidates _ _
  refine ⟨again, w'', ran', unchanged, ?_, ?_, left⟩
  · rw [first, pinned]
    simp [Function.comp_def]
  · rw [pinned]
    simp

section Sample

-- A folder with a wheel, and a file that asks for its package in two lines.
def sampleDisk : Disk :=
  ((Disk.empty.put ["w"] .folder).put ["w", "torch-2.0-py3-none-any.whl"] (.file .empty)).put ["r.txt"]
    (.file (Text.encode "torch>=1\nnumpy\nTorch==2.0"))

def sampleWorkspace : Workspace := ⟨sampleDisk, [], [], [], [], 0⟩

theorem run_again_sample : ∃ (result again : PinResult) (w w' : Workspace),
    run ["w"] ["r.txt"] ⟨Mapping.builtIn, false⟩ sampleWorkspace = .ok result w ∧
      run ["w"] ["r.txt"] ⟨Mapping.builtIn, false⟩ w = .ok again w' ∧ again.changed = false ∧ w'.disk = w.disk := by
  have folder : sampleWorkspace.disk.find? (Path.bare ["w"]) = some .folder := rfl
  have file : sampleWorkspace.disk.find? ["r.txt"] = some (.file (Text.encode "torch>=1\nnumpy\nTorch==2.0")) := rfl
  have named : ∀ e ∈ Mapping.builtIn, PackageName.isName e.name = true := by decide +kernel
  obtain ⟨result, w, ran⟩ := run_of_file folder file (by decide)
  obtain ⟨_, again, w', ran', unchanged, _, _, left⟩ := run_again named ran
  exact ⟨result, again, w, w', ran, ran', unchanged, left⟩

end Sample

end Wheelhouse.Pin
