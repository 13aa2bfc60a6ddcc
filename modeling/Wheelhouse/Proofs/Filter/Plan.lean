import Mathlib.Data.List.Basic
import Mathlib.Tactic.ByContra
import Wheelhouse.Filter.Plan
import Wheelhouse.Proofs.Disk.Operations
import Wheelhouse.Proofs.Package.Archive

/-!
What is planned for a collection of archives. A copy of a wanted package with builds is removed exactly when
it is not the same as a build, and a build is copied exactly when it is not there. No file is removed twice
or after it has been copied.
-/

set_option autoImplicit false

namespace Wheelhouse.Filter

/-- Whether a file name describes an archive of a package. -/
def IsArchiveOf (name f : String) : Prop := ∃ a, Archive.parse? f = some a ∧ a.normalizedName = name

/-- Whether a folder has an archive of a package. -/
def HasBuild (d : Disk) (folder : Path) (name : String) : Prop :=
  ∃ f, IsArchiveOf name f ∧ d.file? (folder.bare ++ [f]) ≠ none

/-- Whether a file of the collection has the digest of the build of its name. -/
def IsSame (d : Disk) (custom all : Path) (f : String) : Prop :=
  ∃ a b, d.file? (custom.bare ++ [f]) = some a ∧ d.file? (all.bare ++ [f]) = some b ∧
    Sha256.hexDigest a = Sha256.hexDigest b

variable {name name' f : String} {names : List String}

theorem IsArchiveOf.unique (h : IsArchiveOf name f) (h' : IsArchiveOf name' f) : name = name' := by
  obtain ⟨a, parsed, rfl⟩ := h
  obtain ⟨b, parsed', rfl⟩ := h'
  rw [parsed, Option.some.injEq] at parsed'
  rw [parsed']

theorem scan_archives (files : List String) : (scan files).1 = files.filterMap Archive.parse? := by
  change (files.filter Archive.hasExtension).filterMap Archive.parse? = _
  induction files with
  | nil => rfl
  | cons f files ih =>
    by_cases named : Archive.hasExtension f = true
    · simp [List.filterMap_cons, named, ih]
    · have unparsed : Archive.parse? f = none := by
        by_contra found
        obtain ⟨a, parsed⟩ := Option.ne_none_iff_exists'.1 found
        exact named (Archive.hasExtension_of_parse (Archive.parse?_eq_some_iff.1 parsed))
      simp [named, unparsed, ih]

theorem mem_ofName {files : List String} {a : Archive} : a ∈ ofName name (files.filterMap Archive.parse?) ↔
    a.filename ∈ files ∧ Archive.parse? a.filename = some a ∧ a.normalizedName = name := by
  rw [ofName, List.mem_filter, List.mem_filterMap, decide_eq_true_eq]
  constructor
  · rintro ⟨⟨f, inside, parsed⟩, named⟩
    obtain rfl := (Archive.of_parse? parsed).1
    exact ⟨inside, parsed, named⟩
  · rintro ⟨inside, parsed, named⟩
    exact ⟨⟨_, inside, parsed⟩, named⟩

theorem exists_mem_ofName {files : List String} :
    (∃ a ∈ ofName name (files.filterMap Archive.parse?), a.filename = f) ↔ f ∈ files ∧ IsArchiveOf name f := by
  constructor
  · rintro ⟨a, inside, rfl⟩
    obtain ⟨inside, parsed, named⟩ := mem_ofName.1 inside
    exact ⟨inside, a, parsed, named⟩
  · rintro ⟨inside, a, parsed, named⟩
    obtain rfl := (Archive.of_parse? parsed).1
    exact ⟨a, mem_ofName.2 ⟨inside, parsed, named⟩, rfl⟩

-- The files of a folder, none if it is not there.
def AreFiles (d : Disk) (folder : Path) (files : List String) : Prop :=
  ∀ f, f ∈ files ↔ d.file? (folder.bare ++ [f]) ≠ none

-- The archives among the files of two folders.
def collected (custom all : Path) (builds copies : List String) : Collections :=
  ⟨custom, all, builds.filterMap Archive.parse?, copies.filterMap Archive.parse?⟩

variable {d : Disk} {custom all : Path} {builds copies : List String}

theorem hasBuild_iff (built : AreFiles d custom builds) :
    ofName name (builds.filterMap Archive.parse?) ≠ [] ↔ HasBuild d custom name := by
  constructor
  · intro filled
    obtain ⟨a, inside⟩ := List.exists_mem_of_ne_nil _ filled
    obtain ⟨inside, named⟩ := exists_mem_ofName.1 ⟨a, inside, rfl⟩
    exact ⟨a.filename, named, (built _).1 inside⟩
  · rintro ⟨f, named, inside⟩
    obtain ⟨a, inside, _⟩ := exists_mem_ofName.2 ⟨(built f).2 inside, named⟩
    exact List.ne_nil_of_mem inside

theorem digest?_child (d : Disk) (folder : Path) (f : String) :
    digest? d (folder.child f) = (d.file? (folder.bare ++ [f])).map Sha256.hexDigest := by
  rw [digest?, Path.child, Disk.digest]
  cases file : d.file? (folder.bare ++ [f]) with
  | some contents =>
    rw [Disk.readFile_of_find? (Disk.file?_eq_some_iff.1 file)]
    rfl
  | none =>
    cases read : d.readFile (folder.bare ++ [f]) with
    | error x => rfl
    | ok contents =>
      rw [Disk.file?_eq_some_iff.2 (Disk.readFile_ok read).2] at file
      cases file

theorem isSame_iff (built : AreFiles d custom builds) {a : Archive} (parsed : Archive.parse? a.filename = some a) :
    isSame d (collected custom all builds copies) (ofName a.normalizedName (builds.filterMap Archive.parse?)) a = true ↔
      IsSame d custom all a.filename := by
  have known : ((ofName a.normalizedName (builds.filterMap Archive.parse?)).any fun b => b.filename = a.filename) = true ↔
      d.file? (custom.bare ++ [a.filename]) ≠ none := by
    have named : IsArchiveOf a.normalizedName a.filename := ⟨a, parsed, rfl⟩
    have members : (∃ b ∈ ofName a.normalizedName (builds.filterMap Archive.parse?), b.filename = a.filename) ↔ _ :=
      exists_mem_ofName
    simp only [List.any_eq_true, decide_eq_true_eq, members, named, and_true, built a.filename]
  rw [isSame, Bool.and_eq_true, known, decide_eq_true_eq]
  change _ ∧ digest? d (custom.child _) = digest? d (all.child _) ↔ _
  rw [digest?_child, digest?_child, IsSame]
  cases d.file? (custom.bare ++ [a.filename]) <;> cases d.file? (all.bare ++ [a.filename]) <;> simp

-- The steps for a package with builds, spelled out.
theorem stepsFor_of_build (built : AreFiles d custom builds) (some : HasBuild d custom name) :
    stepsFor d (collected custom all builds copies) name =
      let customs := ofName name (builds.filterMap Archive.parse?)
      let others := ofName name (copies.filterMap Archive.parse?)
      let same := isSame d (collected custom all builds copies) customs
      (others.map fun a => if same a then .keep a.filename else .remove name a.filename) ++
        (customs.filter fun b => (others.filter same).all fun a => a.filename != b.filename).map
          fun b => .restore name b.filename := by
  have filled := (hasBuild_iff built).2 some
  have kept : (ofName name (builds.filterMap Archive.parse?)).isEmpty = false := by simpa using filled
  rw [stepsFor]
  simp only [collected, kept, Bool.false_eq_true, if_false]
  rfl

theorem stepsFor_of_none (built : AreFiles d custom builds) (none : ¬HasBuild d custom name) :
    stepsFor d (collected custom all builds copies) name = [.leave name] := by
  have empty : ofName name (builds.filterMap Archive.parse?) = [] := by
    by_contra filled
    exact none ((hasBuild_iff built).1 filled)
  simp [stepsFor, collected, empty]

theorem remove_mem_stepsFor (built : AreFiles d custom builds) :
    .remove name' f ∈ stepsFor d (collected custom all builds copies) name ↔
      name' = name ∧ HasBuild d custom name ∧ IsArchiveOf name f ∧ f ∈ copies ∧ ¬IsSame d custom all f := by
  by_cases some : HasBuild d custom name
  · rw [stepsFor_of_build built some]
    simp only [List.mem_append, List.mem_map, some, true_and]
    constructor
    · rintro (⟨a, member, step⟩ | ⟨b, _, step⟩)
      · obtain ⟨inside, parsed, rfl⟩ := mem_ofName.1 member
        split at step
        · cases step
        · rename_i other
          cases step
          exact ⟨rfl, ⟨a, parsed, rfl⟩, inside, fun same => other ((isSame_iff built parsed).2 same)⟩
      · cases step
    · rintro ⟨rfl, ⟨a, parsed, rfl⟩, inside, other⟩
      obtain rfl := (Archive.of_parse? parsed).1
      refine .inl ⟨a, mem_ofName.2 ⟨inside, parsed, rfl⟩, ?_⟩
      rw [if_neg fun same => other ((isSame_iff built parsed).1 same)]
  · simp [stepsFor_of_none built some, some]

theorem restore_mem_stepsFor (built : AreFiles d custom builds) (copied : AreFiles d all copies) :
    .restore name' f ∈ stepsFor d (collected custom all builds copies) name ↔
      name' = name ∧ IsArchiveOf name f ∧ f ∈ builds ∧ ¬IsSame d custom all f := by
  by_cases some : HasBuild d custom name
  · rw [stepsFor_of_build built some]
    simp only [List.mem_append, List.mem_map, List.mem_filter, List.all_eq_true, bne_iff_ne]
    constructor
    · rintro (⟨a, _, step⟩ | ⟨b, ⟨member, missing⟩, step⟩)
      · split at step <;> cases step
      · cases step
        obtain ⟨inside, parsed, rfl⟩ := mem_ofName.1 member
        refine ⟨rfl, ⟨b, parsed, rfl⟩, inside, fun same => ?_⟩
        have there : d.file? (all.bare ++ [b.filename]) ≠ none := by
          obtain ⟨_, _, _, there, _⟩ := same
          simp [there]
        have copy := (copied b.filename).2 there
        exact missing b ⟨mem_ofName.2 ⟨copy, parsed, rfl⟩, (isSame_iff built parsed).2 same⟩ rfl
    · rintro ⟨rfl, ⟨b, parsed, rfl⟩, inside, other⟩
      obtain rfl := (Archive.of_parse? parsed).1
      refine .inr ⟨b, ⟨mem_ofName.2 ⟨inside, parsed, rfl⟩, ?_⟩, rfl⟩
      rintro a ⟨member, same⟩ file
      obtain ⟨_, parsed', named⟩ := mem_ofName.1 member
      rw [← named] at same
      exact other (file ▸ (isSame_iff built parsed').1 same)
  · rw [stepsFor_of_none built some]
    constructor
    · intro inside
      simp at inside
    · rintro ⟨_, named, inside, _⟩
      exact absurd ⟨f, named, (built f).1 inside⟩ some

def addTarget (seen : List String) (n : String) : List String := if seen.contains n then seen else seen ++ [n]

theorem foldl_addTarget {seen : List String} (distinct : seen.Nodup) (ns : List String) :
    (ns.foldl addTarget seen).Nodup ∧ ∀ n, n ∈ ns.foldl addTarget seen ↔ n ∈ seen ∨ n ∈ ns := by
  induction ns generalizing seen with
  | nil => simp [distinct]
  | cons n ns ih =>
    rw [List.foldl_cons, addTarget]
    by_cases known : seen.contains n = true
    · rw [if_pos known]
      obtain ⟨distinct, members⟩ := ih distinct
      refine ⟨distinct, fun m => ?_⟩
      have old : n ∈ seen := by simpa using known
      grind
    · rw [if_neg known]
      have new : n ∉ seen := by simpa using known
      have next : (seen ++ [n]).Nodup := List.nodup_append.2 ⟨distinct, by simp, by grind⟩
      obtain ⟨distinct, members⟩ := ih next
      refine ⟨distinct, fun m => ?_⟩
      grind

theorem nodup_targets (names : List String) : (targets names).Nodup :=
  (foldl_addTarget List.nodup_nil (names.map PackageName.normalize)).1

theorem mem_targets : name ∈ targets names ↔ name ∈ names.map PackageName.normalize :=
  ((foldl_addTarget List.nodup_nil (names.map PackageName.normalize)).2 name).trans (by simp)

theorem remove_mem_steps (built : AreFiles d custom builds) :
    .remove name f ∈ steps d (collected custom all builds copies) names ↔
      name ∈ names.map PackageName.normalize ∧ HasBuild d custom name ∧ IsArchiveOf name f ∧ f ∈ copies ∧
        ¬IsSame d custom all f := by
  simp only [steps, List.mem_flatMap, remove_mem_stepsFor built, mem_targets]
  constructor
  · rintro ⟨_, wanted, rfl, rest⟩
    exact ⟨wanted, rest⟩
  · rintro ⟨wanted, rest⟩
    exact ⟨name, wanted, rfl, rest⟩

theorem restore_mem_steps (built : AreFiles d custom builds) (copied : AreFiles d all copies) :
    .restore name f ∈ steps d (collected custom all builds copies) names ↔
      name ∈ names.map PackageName.normalize ∧ IsArchiveOf name f ∧ f ∈ builds ∧ ¬IsSame d custom all f := by
  simp only [steps, List.mem_flatMap, restore_mem_stepsFor built copied, mem_targets]
  constructor
  · rintro ⟨_, wanted, rfl, rest⟩
    exact ⟨wanted, rest⟩
  · rintro ⟨wanted, rest⟩
    exact ⟨name, wanted, rfl, rest⟩

-- A step removes or copies a file.
def Touches (f : String) (step : FilterStep) : Prop := ∃ name, step = .remove name f ∨ step = .restore name f

-- What one step touches a later one does not remove.
def Spares (s t : FilterStep) : Prop := ∀ name f, t = .remove name f → ¬Touches f s

theorem isArchiveOf_of_touches (built : AreFiles d custom builds) (copied : AreFiles d all copies) {step : FilterStep}
    (inside : step ∈ stepsFor d (collected custom all builds copies) name) (touches : Touches f step) :
    IsArchiveOf name f := by
  obtain ⟨n, rfl | rfl⟩ := touches
  · exact ((remove_mem_stepsFor built).1 inside).2.2.1
  · exact ((restore_mem_stepsFor built copied).1 inside).2.1

theorem pairwise_ofName (distinct : copies.Nodup) (name : String) :
    (ofName name (copies.filterMap Archive.parse?)).Pairwise fun a b => a.filename ≠ b.filename := by
  apply List.Pairwise.filter
  rw [List.pairwise_filterMap]
  refine distinct.imp ?_
  intro f g other a parsed b parsed' same
  rw [(Archive.of_parse? parsed).1, (Archive.of_parse? parsed').1] at same
  exact other same

theorem pairwise_stepsFor (built : AreFiles d custom builds) (distinct : copies.Nodup) :
    (stepsFor d (collected custom all builds copies) name).Pairwise Spares := by
  by_cases some : HasBuild d custom name
  · rw [stepsFor_of_build built some]
    simp only [List.pairwise_append, List.pairwise_map, List.mem_map]
    refine ⟨(pairwise_ofName distinct name).imp ?_, ?_, ?_⟩
    · rintro a b other n f step ⟨n', touches⟩
      grind
    · exact List.pairwise_of_forall fun a b n f step => by cases step
    · rintro s _ t ⟨b, _, rfl⟩ n f step
      cases step
  · rw [stepsFor_of_none built some]
    exact List.pairwise_singleton _ _

theorem pairwise_steps (built : AreFiles d custom builds) (copied : AreFiles d all copies) (distinct : copies.Nodup) :
    (steps d (collected custom all builds copies) names).Pairwise Spares := by
  rw [steps, List.pairwise_flatMap]
  refine ⟨fun _ _ => pairwise_stepsFor built distinct, (nodup_targets names).imp ?_⟩
  rintro a b other s first t second n f rfl touches
  have late := isArchiveOf_of_touches built copied second ⟨n, .inl rfl⟩
  exact other ((isArchiveOf_of_touches built copied first touches).unique late)

end Wheelhouse.Filter
