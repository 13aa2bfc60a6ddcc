import Wheelhouse.Proofs.Disk.Walk
import Wheelhouse.Proofs.Job
import Wheelhouse.Proofs.Publish.Order

/-!
What a publication would put. For each destination these are the archives among the files of one folder
and all files below the other, each under the key that its relative path has below the destination.
-/

set_option autoImplicit false

namespace Wheelhouse

namespace ObjectKey

theorem join_joined {rel : Path} (plain : rel.IsPlain) (filled : rel ≠ []) (scope destination : String) :
    join [scope, destination, Text.joined "/" rel] = Text.joined "/" (segments [scope, destination] ++ rel) := by
  have parts : segments ([scope, destination] ++ [Text.joined "/" rel]) = segments [scope, destination] ++ rel := by
    rw [segments_append, segments_joined_of_isPlain filled plain]
  exact congrArg (Text.joined "/") parts

end ObjectKey

namespace Publish

-- The object for a relative path below a folder.
def placed (scope destination : String) (folder rel : Path) : PlannedObject :=
  ⟨destination, Text.joined "/" (ObjectKey.segments [scope, destination] ++ rel), folder.bare ++ rel⟩

variable {d : Disk} {remote : Remote} {wheels index : Path} {sources : Sources} {destinations : List String}

theorem object_joined {rel : Path} (plain : rel.IsPlain) (filled : rel ≠ []) (scope destination : String)
    (folder : Path) : object scope destination folder (Text.joined "/" rel) = placed scope destination folder rel := by
  rw [object, placed, ObjectKey.join_joined plain filled, Path.segments_joined_of_isPlain filled plain,
    Path.descend_of_isPlain plain]

theorem mem_byDepth {files : List String} {f : String} : (∃ level ∈ byDepth files, f ∈ level) ↔ f ∈ files := by
  unfold byDepth
  constructor
  · rintro ⟨level, inside, member⟩
    obtain ⟨n, _, rfl⟩ := List.mem_map.1 inside
    exact (List.mem_filter.1 member).1
  · intro member
    refine ⟨_, List.mem_map_of_mem (mem_depths.2 ⟨f, member, rfl⟩), List.mem_filter.2 ⟨member, ?_⟩⟩
    exact decide_eq_true rfl

theorem mem_objects {o : PlannedObject} : o ∈ objects (plan remote wheels index destinations sources) ↔
    ∃ destination ∈ destinations, (∃ f ∈ sources.archives, object remote.scope destination wheels f = o) ∨
      ∃ f ∈ sources.indexFiles, object remote.scope destination index f = o := by
  rw [objects, plan, List.mem_flatMap]
  simp only [List.mem_map, exists_exists_and_eq_and]
  refine exists_congr fun destination => and_congr_right fun _ => ?_
  rw [DestinationPlan.objects, planFor, List.flatten_cons, List.mem_append, List.mem_map]
  refine or_congr_right ?_
  simp only [List.mem_flatten, List.mem_map, exists_exists_and_eq_and]
  constructor
  · rintro ⟨level, inside, f, member, same⟩
    exact ⟨f, mem_byDepth.1 ⟨level, inside, member⟩, same⟩
  · rintro ⟨f, member, same⟩
    obtain ⟨level, inside, member⟩ := mem_byDepth.2 member
    exact ⟨level, inside, f, member, same⟩

-- What is to be put, in terms of the disk alone.
theorem mem_planned (archives : uploadable d wheels = .ok sources.archives)
    (pages : d.listFilesRecursive index = .ok sources.indexFiles) {o : PlannedObject} :
    o ∈ objects (plan remote wheels index destinations sources) ↔ ∃ destination ∈ destinations,
      (∃ f, d.file? (wheels.bare ++ [f]) ≠ none ∧ (Archive.parse? f).isSome = true ∧
        o = placed remote.scope destination wheels [f]) ∨
      ∃ rel, rel ≠ [] ∧ d.file? (index.bare ++ rel) ≠ none ∧ o = placed remote.scope destination index rel := by
  rw [mem_objects]
  refine exists_congr fun destination => and_congr_right fun _ => or_congr ?_ ?_
  · unfold uploadable at archives
    cases listed : d.listFiles wheels with
    | error x =>
      rw [listed] at archives
      cases archives
    | ok files =>
      rw [listed] at archives
      have same : files.filter (fun f => (Archive.parse? f).isSome) = sources.archives := Except.ok.inj archives
      have found := (Disk.mem_of_listFiles listed).2
      have named {f : String} (file : d.file? (wheels.bare ++ [f]) ≠ none) :
          object remote.scope destination wheels f = placed remote.scope destination wheels [f] := by
        have whole := object_joined (Disk.isPlain_of_file? file).right (by simp) remote.scope destination wheels
        rwa [Text.joined_singleton] at whole
      simp only [← same, List.mem_filter, found]
      constructor
      · rintro ⟨f, ⟨file, readable⟩, rfl⟩
        exact ⟨f, file, readable, named file⟩
      · rintro ⟨f, file, readable, rfl⟩
        exact ⟨f, ⟨file, readable⟩, named file⟩
  · simp only [Disk.mem_of_listFilesRecursive pages]
    constructor
    · rintro ⟨_, ⟨rel, filled, file, rfl⟩, rfl⟩
      exact ⟨rel, filled, file, object_joined (Disk.isPlain_of_file? file).right filled _ _ _⟩
    · rintro ⟨rel, filled, file, rfl⟩
      exact ⟨_, ⟨rel, filled, file, rfl⟩, object_joined (Disk.isPlain_of_file? file).right filled _ _ _⟩

-- What a publication finds, once there are wheels and a root page.
theorem gather_of_site {scope : PublishScope} {mainBranch : String} {w : Workspace}
    (there : w.disk.find? wheels.bare = some .folder) (root : w.disk.file? (index.bare ++ ["index.html"]) ≠ none)
    (accepted : scope.destinations mainBranch = .ok destinations) :
    ∃ sources, uploadable w.disk wheels = .ok sources.archives ∧
      w.disk.listFilesRecursive index = .ok sources.indexFiles ∧
      gather wheels index scope mainBranch w = .ok (destinations, sources) w := by
  have found := Disk.found_of_file? root
  have listed := Disk.list_of_find? there
  have folder : w.disk.find? index.bare = some .folder :=
    Disk.find?_above found (List.prefix_append _ _) (by simp)
  obtain ⟨files, walked⟩ : ∃ files, w.disk.listFilesRecursive index = .ok files :=
    ⟨_, Disk.listFilesRecursive_ok_iff.2 ⟨folder, rfl⟩⟩
  obtain ⟨archives, uploads⟩ : ∃ archives, uploadable w.disk wheels = .ok archives := by
    unfold uploadable Disk.listFiles
    rw [listed]
    exact ⟨_, rfl⟩
  have hasRoot : w.disk.has (index.child "index.html") = true := by
    rw [Path.child, Disk.has_of_isPlain (Disk.isPlain_of_find? found), Option.isSome_iff_ne_none]
    exact found
  refine ⟨⟨archives, files⟩, uploads, walked, ?_⟩
  unfold gather
  rw [Job.bind_ok (Job.has_run wheels w), Disk.has_of_list listed, if_pos rfl]
  beta_reduce
  simp only
  rw [Job.bind_ok (Job.has_run _ w), hasRoot, if_pos rfl]
  rw [Job.bind_ok (Job.ofExcept_ok_iff.2 ⟨accepted, rfl⟩), Job.bind_ok (Job.look_ok_iff.2 ⟨uploads, rfl⟩),
    Job.bind_ok (Job.look_ok_iff.2 ⟨walked, rfl⟩)]
  rfl

-- A dry run says what is to be put, once there are wheels and a root page.
theorem run_dry (remote : Remote) {scope : PublishScope} {options : PublishOptions} {w : Workspace}
    (there : w.disk.find? wheels.bare = some .folder) (root : w.disk.file? (index.bare ++ ["index.html"]) ≠ none)
    (accepted : scope.destinations options.mainBranch = .ok destinations) (dry : options.dryRun = true) :
    ∃ sources w', uploadable w.disk wheels = .ok sources.archives ∧
      w.disk.listFilesRecursive index = .ok sources.indexFiles ∧
      run wheels index remote scope options w =
        .ok ⟨destinations, objects (plan remote wheels index destinations sources), 0, true⟩ w' := by
  obtain ⟨sources, uploads, walked, gathered⟩ := gather_of_site there root accepted
  obtain ⟨w', ran⟩ : ∃ w', run wheels index remote scope options w =
      .ok ⟨destinations, objects (plan remote wheels index destinations sources), 0, true⟩ w' := by
    unfold run
    rw [Job.bind_ok gathered]
    simp only
    rw [Job.bind_ok (Job.info_run _ _ w), dry, if_pos rfl]
    exact ⟨_, rfl⟩
  exact ⟨sources, w', uploads, walked, ran⟩

end Publish

end Wheelhouse
