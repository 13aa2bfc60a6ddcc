import Mathlib.Data.List.Basic
import Wheelhouse.Proofs.Package.FileName
import Wheelhouse.Proofs.Pin.Contribution
import Wheelhouse.Proofs.Text.Units

/-!
Where the version of a pinned package comes from. The mapping looks at the start of a file name and the version
is read by the grammar of file names. The two agree on what package an archive belongs to unless the name in
the file name has a hyphen, which only that of a source distribution can have.
-/

set_option autoImplicit false

namespace Wheelhouse

namespace Mapping

variable {mapping : Mapping} {e : MappingEntry} {f spelling : String}

/-- Each entry looks for a spelling of its package's name with a hyphen after it. -/
def IsSpelled (mapping : Mapping) : Prop :=
  ∀ e ∈ mapping, ∃ spelling, e.start = spelling ++ "-" ∧ PackageName.Spelling ['.', '_'] spelling.toList ∧
    PackageName.normalize spelling = PackageName.normalize e.name

theorem isSpelled_builtIn : IsSpelled builtIn := by
  have spelled : ∀ e ∈ builtIn, ∃ spelling ∈ e.start.toList.dropLast :: [], e.start = String.ofList spelling ++ "-" ∧
      PackageName.isSpelling PackageName.isWheelNameChar spelling = true ∧
        PackageName.normalize (String.ofList spelling) = PackageName.normalize e.name := by decide +kernel
  intro e inside
  obtain ⟨spelling, _, start, letters, normal⟩ := spelled e inside
  exact ⟨String.ofList spelling, start, by simpa using PackageName.isSpelling_wheel_iff.1 letters, normal⟩

theorem prefix_of_begins (spelled : PackageName.Spelling ['.', '_'] spelling.toList) (start : e.start = spelling ++ "-")
    (begins : Begins e f) : ∃ later, f.toList = spelling.toList ++ '-' :: later := by
  have ascii : ∀ c ∈ e.start.toList, c.toNat < 128 := by
    intro c inside
    rw [start, String.toList_append, List.mem_append] at inside
    rcases inside with inside | hyphen
    · exact (spelled.mono (by simp)).isAscii c inside
    · obtain rfl := List.mem_singleton.1 hyphen
      decide
  obtain ⟨later, whole⟩ := Text.prefix_of_codeUnits ascii begins
  exact ⟨later, by simp [← whole, start]⟩

end Mapping

namespace Archive

variable {f spelling : String} {a : Archive}

namespace Describes

theorem named (described : Describes f a) : PackageName.Spelling ['.', '_', '-'] a.name.toList := by
  cases described with
  | wheel _ parts => exact parts.named.mono (by simp)
  | sdist _ named => exact named

theorem begins (described : Describes f a) : ∃ later, f.toList = a.name.toList ++ '-' :: later := by
  cases described with
  | wheel text => exact ⟨_, by simp [text]; rfl⟩
  | sdist text => exact ⟨_, by simp [text]; rfl⟩

theorem hyphen_not_mem (described : Describes f a) (wheel : a.isWheel = true) : '-' ∉ a.name.toList := by
  cases described with
  | wheel _ parts => exact hyphen_not_mem_of_spelling parts.named
  | sdist => cases wheel

-- What stands before the first hyphen of the file name is the name, or the part of it before its first hyphen.
theorem normalizedName_of_start (described : Describes f a) (spelled : PackageName.Spelling ['.', '_'] spelling.toList)
    (start : ∃ later, f.toList = spelling.toList ++ '-' :: later) :
    ('-' ∉ a.name.toList → a.normalizedName = PackageName.normalize spelling) ∧
      ('-' ∈ a.name.toList →
        ∃ more, more ≠ "" ∧ a.normalizedName = PackageName.normalize spelling ++ "-" ++ more) := by
  obtain ⟨later, text⟩ := start
  obtain ⟨rest, text'⟩ := described.begins
  have clean := hyphen_not_mem_of_spelling spelled
  constructor
  · intro whole
    have same := (Text.cut_at_first (text'.symm.trans text) whole clean).1
    rw [normalizedName, String.toList_inj.1 same]
  · intro cut
    obtain ⟨first, more, name, fresh⟩ := List.eq_append_cons_of_mem cut
    rw [name, List.append_assoc, List.cons_append] at text'
    have same := (Text.cut_at_first (text'.symm.trans text) fresh clean).1
    have parts : a.name = spelling ++ "-" ++ String.ofList more := by simp [← String.toList_inj, name, same]
    rw [normalizedName, parts]
    exact PackageName.normalize_of_hyphen (parts ▸ described.named) spelled

end Describes

end Archive

namespace Pin

variable {install requirements : Path} {options : PinOptions} {result : PinResult} {w w' : Workspace}

-- The file that a candidate has been taken from, and how its name is read.
theorem archive_of_mem {mapping : Mapping} {files : List String} {c : Candidate}
    (inside : c ∈ (Selection.ofFiles mapping files).candidates) :
    c.archive ∈ files ∧ ∃ e ∈ mapping, ∃ a, Mapping.Begins e c.archive ∧ Archive.Describes c.archive a ∧
      c.name = e.name ∧ c.version = a.version := by
  obtain ⟨f, listed, found⟩ := List.mem_filterMap.1 (Selection.mem_contributions_of_mem inside)
  obtain ⟨rfl, e, a, ⟨before, after, rfl, begins, _⟩, _, parsed, name, version⟩ := Selection.contribution?_eq_some found
  exact ⟨listed, e, by simp, a, begins, Archive.parse_ok_iff.1 parsed, name, version⟩

/-- A pin takes its version from an archive of the folder. The archive is one of the pinned package, unless it is
a source distribution with a hyphen in its name: the name of the package is then what the archive's name starts
with. -/
theorem run_takes_archives (spelled : options.mapping.IsSpelled)
    (ran : run install requirements options w = .ok result w') :
    Mapping.builtIn.IsSpelled ∧ ∀ p ∈ result.pinned,
      w.disk.file? (install.bare ++ [p.candidate.archive]) ≠ none ∧
      ∃ a, Archive.parse p.candidate.archive = .ok a ∧ a.version = p.candidate.version ∧
        (a.isWheel = true → '-' ∉ a.name.toList) ∧
        ('-' ∉ a.name.toList → a.normalizedName = p.candidate.normalizedName) ∧
        ('-' ∈ a.name.toList → ∃ more, more ≠ "" ∧ a.normalizedName = p.candidate.normalizedName ++ "-" ++ more) := by
  refine ⟨Mapping.isSpelled_builtIn, ?_⟩
  obtain ⟨files, listed, _, _, pinned⟩ := selection_of_run ran
  intro p inside
  obtain ⟨member, e, known, a, begins, described, name, version⟩ :=
    archive_of_mem (pinned ▸ List.mem_map_of_mem (f := Pinned.candidate) inside)
  obtain ⟨spelling, start, letters, normal⟩ := spelled e known
  have same : p.candidate.normalizedName = PackageName.normalize spelling := by
    rw [Candidate.normalizedName, name, normal]
  rw [same]
  exact ⟨((Disk.mem_of_listFiles listed).2 _).1 member, a, Archive.parse_ok_iff.2 described, version.symm,
    described.hyphen_not_mem, described.normalizedName_of_start letters (Mapping.prefix_of_begins letters start begins)⟩

theorem exists_pinned (ran : run install requirements options w = .ok result w') {files : List String} {name : String}
    (listed : (Text.sorted (Disk.fileNames (w.disk.children install.bare))).Perm files)
    (found : ∃ c ∈ files.filterMap (Selection.contribution? options.mapping), c.normalizedName = name) :
    ∃ p ∈ result.pinned, p.candidate.archive ∈ files ∧ p.candidate.normalizedName = name := by
  obtain ⟨files', listed', _, _, pinned⟩ := selection_of_run ran
  rw [← Disk.listFiles_eq listed'] at listed
  obtain ⟨c, member, named⟩ := found
  have found : ∃ c ∈ Selection.contributions options.mapping files', c.normalizedName = name :=
    ⟨c, (listed.filterMap _).mem_iff.2 member, named⟩
  obtain ⟨c, chosen, named⟩ := Selection.exists_candidate_iff.2 found
  obtain ⟨p, inside, rfl⟩ := List.mem_map.1 (pinned.symm ▸ chosen)
  exact ⟨p, inside, listed.mem_iff.1 (archive_of_mem chosen).1, named⟩

theorem run_takes_wheel : ∃ (result : PinResult) (w : Workspace),
    Mapping.builtIn.IsSpelled ∧ run ["w"] ["r.txt"] ⟨Mapping.builtIn, false⟩ sampleWorkspace = .ok result w ∧
      ∃ p ∈ result.pinned, ∃ a, Archive.parse "torch-2.0-py3-none-any.whl" = .ok a ∧ a.version = p.candidate.version ∧
        a.normalizedName = "torch" := by
  have folder : sampleWorkspace.disk.find? (Path.bare ["w"]) = some .folder := rfl
  have file : sampleWorkspace.disk.find? ["r.txt"] = some (.file (Text.encode "torch>=1\nnumpy\nTorch==2.0")) := rfl
  obtain ⟨result, w, ran⟩ := run_of_file folder file (by decide)
  have known : (PinOptions.mk Mapping.builtIn false).mapping.IsSpelled := Mapping.isSpelled_builtIn
  obtain ⟨spelled, takes⟩ := run_takes_archives known ran
  have listed : (Disk.fileNames (sampleWorkspace.disk.children (Path.bare ["w"]))) = ["torch-2.0-py3-none-any.whl"] := rfl
  obtain ⟨p, inside, source, name⟩ := exists_pinned ran (listed ▸ Text.sorted_perm _)
    (by decide +kernel : ∃ c ∈ ["torch-2.0-py3-none-any.whl"].filterMap (Selection.contribution? Mapping.builtIn),
      c.normalizedName = "torch")
  obtain ⟨_, a, parsed, version, _, same, _⟩ := takes p inside
  rw [List.mem_singleton.1 source] at parsed
  have read : Archive.parse "torch-2.0-py3-none-any.whl" =
      .ok ⟨"torch-2.0-py3-none-any.whl", "torch", "2.0", .wheel none ⟨"py3", "none", "any"⟩⟩ := by decide +kernel
  obtain rfl := Except.ok.inj (read.symm.trans parsed)
  exact ⟨result, w, spelled, ran, p, inside, _, parsed, version, (same (by decide)).trans name⟩

-- A source distribution of another package, whose name starts with that of a known one.
def otherDisk : Disk :=
  ((Disk.empty.put ["w"] .folder).put ["w", "torch-foo-1.0.tar.gz"] (.file .empty)).put ["r.txt"] (.file .empty)

def otherWorkspace : Workspace := ⟨otherDisk, [], [], [], [], 0⟩

/-- Not every archive that is taken has the name of its package. -/
theorem run_takes_other : ∃ (result : PinResult) (w : Workspace),
    run ["w"] ["r.txt"] ⟨Mapping.builtIn, false⟩ otherWorkspace = .ok result w ∧
      ¬∀ p ∈ result.pinned, ∃ a, Archive.parse p.candidate.archive = .ok a ∧
        a.normalizedName = PackageName.normalize p.candidate.name := by
  have folder : otherWorkspace.disk.find? (Path.bare ["w"]) = some .folder := rfl
  have file : otherWorkspace.disk.find? ["r.txt"] = some (.file .empty) := rfl
  obtain ⟨result, w, ran⟩ :=
    run_of_file folder file (by decide)
  refine ⟨result, w, ran, fun taken => ?_⟩
  have listed : Disk.fileNames (otherWorkspace.disk.children (Path.bare ["w"])) = ["torch-foo-1.0.tar.gz"] := rfl
  obtain ⟨p, inside, source, name⟩ := exists_pinned ran (listed ▸ Text.sorted_perm _)
    (by decide +kernel : ∃ c ∈ ["torch-foo-1.0.tar.gz"].filterMap (Selection.contribution? Mapping.builtIn),
      c.normalizedName = "torch")
  obtain ⟨a, parsed, same⟩ := taken p inside
  rw [List.mem_singleton.1 source] at parsed
  have read : Archive.parse "torch-foo-1.0.tar.gz" = .ok ⟨"torch-foo-1.0.tar.gz", "torch-foo", "1.0", .sdist⟩ := by
    decide +kernel
  obtain rfl := Except.ok.inj (read.symm.trans parsed)
  have normal : PackageName.normalize "torch-foo" = "torch-foo" := by decide +kernel
  have differs : "torch-foo" = "torch" := normal.symm.trans (same.trans name)
  revert differs
  decide

end Pin

end Wheelhouse
