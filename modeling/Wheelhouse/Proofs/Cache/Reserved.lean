import Wheelhouse.Proofs.Cache.Completeness
import Wheelhouse.Proofs.Store.Answers

/-!
The name of the manifest among the names of files. The objects of an entry have different keys, and a put
changes what a check answers only if its file has the name of the manifest or lies in a folder of this name:
nothing keeps such a file from being put, and then the entry counts before it is complete.
-/

set_option autoImplicit false

namespace Wheelhouse

namespace Cache

variable {remote : Remote} {key entry : String} {folder : Path} {files : List String} {w : Workspace}

theorem manifestKey_eq (entry : String) :
    manifestKey entry = ObjectKey.join [entry, Text.joined "/" [Manifest.fileName]] := by
  rw [Text.joined_singleton, manifestKey]

theorem prefix_fileName_iff {rel : List String} (filled : rel ≠ []) :
    [Manifest.fileName] <+: rel ↔ rel.head? = some Manifest.fileName := by
  obtain ⟨name, rel, rfl⟩ := List.exists_cons_of_ne_nil filled
  simp [List.cons_prefix_cons, eq_comm]

-- Whether a file has the name of the manifest or lies in a folder of this name.
def IsReserved (file : String) : Prop := (Path.segments file).head? = some Manifest.fileName

theorem answer_check (valid : entryKey remote key = .ok entry) (options : CacheOptions) (w : Workspace) :
    Job.answer (check remote options key) w =
      if options.forceRebuild then .ok false else Job.answer (remote.store.contains (manifestKey entry)) w := by
  have run : check remote options key w = _ := Job.bind_ok (Job.ofExcept_ok_iff.2 ⟨valid, rfl⟩)
  split_ifs with rebuild
  · rw [if_pos rebuild] at run
    exact Job.answer_ok run
  · rw [if_neg rebuild] at run
    cases found : remote.store.contains (manifestKey entry) w with
    | ok b v =>
      rw [Job.bind_ok found] at run
      rw [Job.answer_ok found]
      exact Job.answer_ok run
    | error e v =>
      rw [Job.bind_error found] at run
      rw [Job.answer_error found]
      exact Job.answer_error run

theorem respects_putFile (built : remote.store.IsBuilt) (listed : w.disk.listFilesRecursive folder = .ok files)
    {file : String} (inside : file ∈ files) (free : ¬IsReserved file) (source : Path) (contentType : Option String) :
    Respects (Job.SameAnswer (remote.store.contains (manifestKey entry)))
      (remote.store.putFile (ObjectKey.join [entry, file]) source contentType) := by
  obtain ⟨rel, _, proper, rfl, _⟩ := exists_rel_of_listed listed inside
  rw [IsReserved, proper.segments_joined, ← prefix_fileName_iff proper.1] at free
  rw [manifestKey_eq]
  refine built.respects_putFile entry proper.isPlain isProper_fileName.isPlain (fun above => free ?_) free source contentType
  have same : rel = [Manifest.fileName] :=
    above.eq_of_length_le (Nat.succ_le_of_lt (List.length_pos_iff.2 proper.1))
  exact same ▸ List.prefix_rfl

theorem isReserved_fileName : IsReserved Manifest.fileName := by
  unfold IsReserved
  decide

theorem exists_mem_manifestPut (remote : Remote) (key entry : String) (files : List String) (w : Workspace) :
    ∃ put ∈ manifestPut remote key entry files [] w, put.name = Manifest.fileName := by
  rw [manifestPut, List.isEmpty_nil, if_pos rfl]
  split <;> exact ⟨_, List.mem_singleton_self _, rfl⟩

namespace Filling

-- What is put is a file of the folder or the manifest, and as long as nothing reserved is put nothing is said
-- about the manifest that was not said before.
theorem sameAnswer_of_reaches (built : remote.store.IsBuilt) (listed : w.disk.listFilesRecursive folder = .ok files)
    {u : Filling} (steps : (start files w).Reaches remote key entry folder files u) :
    u.waiting ⊆ files ∧ ((∀ put ∈ u.puts, ¬IsReserved put.name) →
      Job.SameAnswer (remote.store.contains (manifestKey entry)) w u.world) := by
  induction steps with
  | refl => exact ⟨List.Subset.refl _, fun _ => rfl⟩
  | @tail u v _ step ih =>
    obtain ⟨within, same⟩ := ih
    have next {file : String} (waits : file ∈ u.waiting)
        (free : ∀ name ∈ u.puts.map Put.name ++ [file], ¬IsReserved name) :
        Job.SameAnswer (remote.store.contains (manifestKey entry)) w
          (final (remote.store.putFile (ObjectKey.join [entry, file]) (target folder file) none) u.world) := by
      have before := same fun put inside => free _ (List.mem_append_left _ (List.mem_map_of_mem inside))
      exact (respects_putFile built listed (within waits) (free file (by simp)) _ none _).trans before
    cases step with
    | @stored file v waits put =>
      refine ⟨fun f inside => within (List.mem_of_mem_erase inside), fun free => ?_⟩
      have ended := next waits (by simpa [or_imp, forall_and] using free)
      rwa [final_ok put] at ended
    | @refused file e v waits put =>
      refine ⟨fun f inside => within (List.mem_of_mem_erase inside), fun free => ?_⟩
      have ended := next waits (by simpa [or_imp, forall_and] using free)
      rw [final_error put] at ended
      have noted (event : Event) : Job.SameAnswer (remote.store.contains (manifestKey entry)) v (v.noting event) :=
        built.answer_contains_congr _ rfl rfl
      exact trans_of (Job.SameAnswer _) ended (noted _)
    | finish taken pending ended =>
      refine ⟨within, fun free => ?_⟩
      by_cases none : u.failed = []
      · obtain ⟨put, inside, named⟩ := exists_mem_manifestPut remote key entry files u.world
        rw [none] at free
        exact absurd (named ▸ isReserved_fileName) (free put (List.mem_append_right _ inside))
      · rw [finish_of_failed none] at ended
        cases ended
        exact same fun put inside => free put (List.mem_append_left _ inside)

end Filling

/-- The objects of an upload have different keys. That of a file is at the manifest or below it just if the
file has the name of the manifest or lies in a folder of this name. Until such a file or the manifest is put,
and also when an upload has failed without it, a check answers what it has answered before. `upload` is one of
these uploads, up to its end. -/
theorem manifest_reserved (built : remote.store.IsBuilt) (valid : entryKey remote key = .ok entry)
    (listed : w.disk.listFilesRecursive folder = .ok files) :
    (files.map fun file => ObjectKey.join [entry, file]).Nodup ∧
    (∀ file ∈ files,
      (ObjectKey.segments [manifestKey entry] <+: ObjectKey.segments [ObjectKey.join [entry, file]] ↔
        IsReserved file) ∧
      (ObjectKey.join [entry, file] = manifestKey entry ↔ file = Manifest.fileName)) ∧
    (∀ u, (Filling.start files w).Reaches remote key entry folder files u →
      (∀ put ∈ u.puts, ¬IsReserved put.name) → ∀ options,
        Job.answer (check remote options key) u.world = Job.answer (check remote options key) w) ∧
    ∀ options, Workers.check (workers options) = .ok () →
      ∃ u r, (Filling.start files w).Reaches remote key entry folder files u ∧ u.outcome = some r ∧
        Job.outcome (upload remote options key folder) w = .ok r u.world := by
  refine ⟨?_, fun file inside => ?_, fun u steps free options => ?_, fun options good =>
    Filling.upload_reaches valid good listed⟩
  · refine (Disk.nodup_listFilesRecursive listed).map_on fun f inside g inside' same => ?_
    obtain ⟨rel, _, proper, rfl, _⟩ := exists_rel_of_listed listed inside
    obtain ⟨rel', _, proper', rfl, _⟩ := exists_rel_of_listed listed inside'
    rw [(ObjectKey.join_below_inj proper.1 proper.isPlain proper'.1 proper'.isPlain).1 same]
  · obtain ⟨rel, _, proper, rfl, _⟩ := exists_rel_of_listed listed inside
    rw [manifestKey_eq, ObjectKey.segments_join, ObjectKey.segments_join, ObjectKey.segments_below proper.1 proper.isPlain,
      ObjectKey.segments_below isProper_fileName.1 isProper_fileName.isPlain, List.prefix_append_right_inj,
      prefix_fileName_iff proper.1, IsReserved, proper.segments_joined,
      ObjectKey.join_below_inj proper.1 proper.isPlain isProper_fileName.1 isProper_fileName.isPlain]
    refine ⟨Iff.rfl, fun same => by rw [same, Text.joined_singleton], fun same => ?_⟩
    exact proper.joined_inj isProper_fileName (same.trans (Text.joined_singleton _ _).symm)
  · rw [answer_check valid, answer_check valid, (Filling.sameAnswer_of_reaches built listed steps).2 free]

section Sample

-- A folder with a file that has the name of the manifest, and a store that refuses the other file.
def reservedDisk : Disk :=
  ((Disk.empty.put ["t"] .folder).put ["t", Manifest.fileName] (.file (Text.encode "1"))).put ["t", "x"]
    (.file (Text.encode "2"))

def reservedWorkspace : Workspace := ⟨reservedDisk, [], [], [], [], 0⟩

def reservedRemote : Remote :=
  ⟨(FolderStore.store ["s"]).refusing fun key => key = ObjectKey.join [sampleEntry "", "x"], ""⟩

theorem reservedDisk_listed : reservedDisk.listFilesRecursive ["t"] = .ok [Manifest.fileName, "x"] := by
  have folder : reservedDisk.find? (Path.bare ["t"]) = some .folder := by
    rw [reservedDisk, Disk.find?_put (by decide), Disk.find?_put (by decide), Disk.find?_put (by decide)]
    rfl
  refine Disk.listFilesRecursive_ok_iff.2 ⟨folder, ?_⟩
  have walked : (reservedDisk.walk (reservedDisk.entries.length + 1) ["t"]).map (Path.relativeText ["t"]) =
      [Manifest.fileName, "x"] := by decide
  change Text.sorted ((reservedDisk.walk (reservedDisk.entries.length + 1) ["t"]).map _) = _
  rw [walked]
  exact List.mergeSort_of_pairwise (by decide +kernel)

theorem reserved_valid : entryKey reservedRemote sampleKey = .ok (sampleEntry "") := rfl

theorem reserved_answer (w : Workspace) : Job.answer (check reservedRemote ⟨false, none⟩ sampleKey) w =
    .ok (w.disk.has (sampleHome ++ [Manifest.fileName])) := by
  have asked := FolderStore.answer_contains ["s"] (manifestKey (sampleEntry "")) w
  rw [sample_setting.placed_manifest] at asked
  rw [answer_check reserved_valid, if_neg (by decide)]
  exact asked

theorem manifest_reserved_sample : ObjectKey.join [sampleEntry "", Manifest.fileName] = manifestKey (sampleEntry "") ∧
    ∃ u, (Filling.start [Manifest.fileName, "x"] reservedWorkspace).Reaches reservedRemote sampleKey (sampleEntry "")
        ["t"] [Manifest.fileName, "x"] u ∧ u.puts = [⟨"x", false⟩] ∧
      Job.answer (check reservedRemote ⟨false, none⟩ sampleKey) u.world = .ok false := by
  have built : reservedRemote.store.IsBuilt := .refusing _ (.folder ["s"])
  obtain ⟨_, keys, kept, _⟩ := manifest_reserved (w := reservedWorkspace) built reserved_valid reservedDisk_listed
  obtain ⟨e, v, refused⟩ : ∃ e v, reservedRemote.store.putFile (ObjectKey.join [sampleEntry "", "x"]) (target ["t"] "x") none
      reservedWorkspace = .error e v := ⟨_, _, rfl⟩
  have steps := Relation.ReflTransGen.single (@Filling.Step.refused reservedRemote sampleKey (sampleEntry "") ["t"]
    [Manifest.fileName, "x"] (Filling.start [Manifest.fileName, "x"] reservedWorkspace) "x" e v (by decide) refused)
  have free : ¬IsReserved "x" := by
    unfold IsReserved
    decide
  have same := (keys Manifest.fileName (by simp)).2.2 rfl
  refine ⟨same, _, steps, rfl, ?_⟩
  rw [kept _ steps (by simpa [Filling.start] using free), reserved_answer]
  rfl

/-- A file with the name of the manifest makes an entry count although the upload of the other file is refused. -/
theorem refused_upload_found : ∃ e v,
    upload reservedRemote ⟨false, none⟩ sampleKey ["t"] reservedWorkspace = .error e v ∧
      Job.answer (check reservedRemote ⟨false, none⟩ sampleKey) reservedWorkspace = .ok false ∧
      Job.answer (check reservedRemote ⟨false, none⟩ sampleKey) v = .ok true := by
  obtain ⟨e, v, put, found⟩ : ∃ e v, putAll reservedRemote (sampleEntry "") ["t"] [Manifest.fileName, "x"]
      reservedWorkspace = .ok [(ObjectKey.join [sampleEntry "", "x"], e)] v ∧
        v.disk.has (sampleHome ++ [Manifest.fileName]) = true := ⟨_, _, rfl, rfl⟩
  refine ⟨_, v, Filling.upload_error _ reserved_valid sample_good reservedDisk_listed put (List.cons_ne_nil _ _), ?_, ?_⟩
  · rw [reserved_answer]
    rfl
  · rw [reserved_answer, found]

end Sample

end Cache

end Wheelhouse
