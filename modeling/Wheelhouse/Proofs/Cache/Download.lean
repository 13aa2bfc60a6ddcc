import Wheelhouse.Proofs.Cache.Filling

/-!
Downloads from the cache. When all files that a manifest lists are in the entry, a download into a folder
that is not there yet makes the folder with these files and no others.
-/

set_option autoImplicit false

namespace Wheelhouse.Cache

/-- A folder that is not there and can be made. -/
structure CanMake (d : Disk) (folder : Path) : Prop where
  absent : d.find? folder.bare = none
  named : ∀ name ∈ folder.bare, Path.isName name = true
  clear : ∀ q, q <+: folder.bare → d.file? q = none
  near : folder.isFarTooLong = false

theorem canMake_of_ensureFolder {d d' : Disk} {folder : Path} (plain : folder.bare.IsPlain)
    (absent : d.find? folder.bare = none) (made : Disk.ensureFolder folder d = .ok () d') :
    CanMake d folder := by
  obtain ⟨named, reached⟩ := Disk.find?_of_ensureFolder plain made
  refine ⟨absent, named, fun q before => ?_, Disk.near_of_ensureFolder made⟩
  rw [← (Disk.gains_of_ensureFolder (.inl made)).file? q]
  exact Disk.file?_of_isFolder (by rw [reached, if_pos before])

-- What a download has done to the disk `d₀` when some of the files have been fetched.
structure Restored (d₀ d : Disk) (home folder : Path) (done : List Path) : Prop where
  fetched : ∀ rel ∈ done, d.find? (folder ++ rel) = d₀.find? (home ++ rel)
  other : ∀ q, d.find? q ≠ d₀.find? q → (∃ rel ∈ done, q = folder ++ rel) ∨
    (d₀.find? q = none ∧ d.find? q = some .folder ∧
      (q <+: folder ∨ ∃ rel ∈ done, q <+: folder ++ rel ∧ q ≠ folder ++ rel))

section

variable {d₀ d : Disk} {home folder : Path} {rels done : List Path}

theorem Restored.kept (h : Restored d₀ d home folder done) (absent : d₀.find? folder = none) {q : Path}
    (found : d₀.find? q ≠ none) : d.find? q = d₀.find? q := by
  by_contra changed
  rcases h.other q changed with ⟨rel, _, rfl⟩ | ⟨missing, _⟩
  · exact found (Disk.find?_eq_none_below absent (List.prefix_append _ _))
  · exact found missing

-- Before a file is fetched nothing is at its place, and no file is on the way there.
theorem Restored.free (h : Restored d₀ d home folder done) (absent : d₀.find? folder = none)
    {rel : Path} (filled : rel ≠ []) (separate : ∀ rel' ∈ done, ¬rel <+: rel') :
    d.find? (folder ++ rel) = none := by
  by_contra found
  have missing := Disk.find?_eq_none_below absent (List.prefix_append folder rel)
  rcases h.other _ (by rwa [missing]) with ⟨rel', inside, same⟩ | ⟨_, _, above | ⟨rel', inside, below, _⟩⟩
  · exact separate rel' inside (List.append_cancel_left same ▸ List.prefix_rfl)
  · have bound := above.length_le
    have positive := List.length_pos_iff.2 filled
    rw [List.length_append] at bound
    omega
  · exact separate rel' inside ((List.prefix_append_right_inj folder).1 below)

theorem Restored.clear (h : Restored d₀ d home folder done) (absent : d₀.find? folder = none)
    (clear : ∀ q, q <+: folder → d₀.file? q = none) {rel : Path}
    (separate : ∀ rel' ∈ done, ¬rel' <+: rel) {q : Path} (before : q <+: folder ++ rel) : d.file? q = none := by
  cases file : d.file? q with
  | none => rfl
  | some contents =>
    have found := Disk.file?_eq_some_iff.1 file
    by_cases same : d.find? q = d₀.find? q
    · have there : d₀.file? q = some contents := Disk.file?_eq_some_iff.2 (same ▸ found)
      rcases List.prefix_or_prefix_of_prefix before (List.prefix_append folder rel) with above | ⟨init, rfl⟩
      · rw [clear q above] at there
        cases there
      · have missing := Disk.find?_eq_none_below absent (List.prefix_append folder init)
        rw [← same, found] at missing
        cases missing
    · rcases h.other q same with ⟨rel', inside, rfl⟩ | ⟨_, made, _⟩
      · exact absurd ((List.prefix_append_right_inj folder).1 before) (separate rel' inside)
      · rw [found] at made
        cases made

theorem Restored.fetch (h : Restored d₀ d home folder done) (absent : d₀.find? folder = none)
    (clear : ∀ q, q <+: folder → d₀.file? q = none) {rel : Path}
    (separate : ∀ rel' ∈ done, ¬rel <+: rel' ∧ ¬rel' <+: rel) {contents : ByteArray}
    (object : d₀.find? (home ++ rel) = some (.file contents)) {d' : Disk}
    (after : ∀ q, d'.find? q = if q = folder ++ rel then some (.file contents)
      else if q <+: (folder ++ rel).dropLast then some .folder else d.find? q) :
    Restored d₀ d' home folder (done ++ [rel]) := by
  have inner : (folder ++ rel).dropLast <+: folder ++ rel := List.dropLast_prefix _
  refine ⟨fun rel' inside => ?_, fun q changed => ?_⟩
  · rcases List.mem_append.1 inside with old | new
    · obtain ⟨down, up⟩ := separate rel' old
      rw [after, if_neg, if_neg, h.fetched rel' old]
      · exact fun before => up ((List.prefix_append_right_inj folder).1 (before.trans inner))
      · exact fun same => up (List.append_cancel_left same ▸ List.prefix_rfl)
    · rw [List.mem_singleton.1 new, after, if_pos rfl, object]
  · rw [after] at changed ⊢
    by_cases here : q = folder ++ rel
    · exact .inl ⟨rel, by simp, here⟩
    · rw [if_neg here] at changed ⊢
      by_cases before : q <+: (folder ++ rel).dropLast
      · rw [if_pos before] at changed ⊢
        refine .inr ⟨?_, rfl, .inr ⟨rel, by simp, before.trans inner, here⟩⟩
        -- There was no file on the way, and what was a folder has not changed.
        by_contra found
        have still := h.kept absent found
        have noFile := h.clear absent clear (fun rel' inside => (separate rel' inside).2) (before.trans inner)
        match there : d₀.find? q with
        | none => exact found there
        | some .folder => exact changed there.symm
        | some (.file contents') =>
          rw [there] at still
          rw [Disk.file?_eq_some_iff.2 still] at noFile
          cases noFile
      · rw [if_neg before] at changed ⊢
        rcases h.other q changed with ⟨rel', inside, same⟩ | ⟨missing, made, above | ⟨rel', inside, below⟩⟩
        · exact .inl ⟨rel', List.mem_append_left _ inside, same⟩
        · exact .inr ⟨missing, made, .inl above⟩
        · exact .inr ⟨missing, made, .inr ⟨rel', List.mem_append_left _ inside, below⟩⟩

-- In the end the folder holds what the entry holds under the paths that were fetched.
theorem Restored.file? (h : Restored d₀ d home folder rels) (absent : d₀.find? folder = none)
    {rel : Path} : d.file? (folder ++ rel) = if rel ∈ rels then d₀.file? (home ++ rel) else none := by
  split
  · rename_i inside
    rw [Disk.file?, h.fetched rel inside, Disk.file?]
  · rename_i outside
    have missing := Disk.find?_eq_none_below absent (List.prefix_append folder rel)
    by_cases same : d.find? (folder ++ rel) = none
    · rw [Disk.file?, same]
    · rcases h.other _ (by rwa [missing]) with ⟨rel', inside, equal⟩ | ⟨_, made, _⟩
      · rw [List.append_cancel_left equal] at outside
        exact absurd inside outside
      · exact Disk.file?_of_isFolder made

end

section

variable {remote : Remote} {root home folder : Path} {key entry : String} {d₀ : Disk} {rels : List Path}

-- What a download finds in the store: under every relative path a file, and no path leads through another.
structure Complete (remote : Remote) (root home : Path) (entry : String) (d₀ : Disk) (rels : List Path) :
    Prop where
  here : FolderStore.IsAt remote.store root
  plain : root.bare.IsPlain
  placed : FolderStore.place root entry = .ok home
  proper : ∀ rel ∈ rels, Path.IsProper rel
  object : ∀ rel ∈ rels, ∃ contents, d₀.find? (home ++ rel) = some (.file contents)
  nodup : rels.Nodup

namespace Complete

-- A file does not lie in another file.
theorem separate (h : Complete remote root home entry d₀ rels) {rel rel' : Path} (inside : rel ∈ rels)
    (inside' : rel' ∈ rels) (before : rel <+: rel') : rel = rel' := by
  obtain ⟨contents, there⟩ := h.object rel inside
  obtain ⟨contents', there'⟩ := h.object rel' inside'
  by_contra other
  have missing := Disk.find?_eq_none_of_file there ((List.prefix_append_right_inj home).2 before)
    fun same => other (List.append_cancel_left same)
  rw [missing] at there'
  cases there'

-- What has been fetched leaves room for what has not.
theorem apart (h : Complete remote root home entry d₀ rels) {done rest : List Path} {rel : Path}
    (split : rels = done ++ rel :: rest) : ∀ rel' ∈ done, ¬rel <+: rel' ∧ ¬rel' <+: rel := by
  intro rel' old
  have inside : rel ∈ rels := by rw [split]; simp
  have inside' : rel' ∈ rels := by rw [split]; exact List.mem_append_left _ old
  have other : rel ≠ rel' := by
    have nodup := h.nodup
    rw [split, List.nodup_append] at nodup
    exact fun same => nodup.2.2 rel' old rel List.mem_cons_self same.symm
  exact ⟨fun before => other (h.separate inside inside' before),
    fun before => other (h.separate inside' inside before).symm⟩

theorem fetch (h : Complete remote root home entry d₀ rels) (make : CanMake d₀ folder)
    {done rest : List Path} {rel : Path} (split : rels = done ++ rel :: rest) {w : Workspace}
    (restored : Restored d₀ w.disk home folder.bare done) :
    (Path.isFarTooLong (folder.bare ++ rel) = false ∧
      ∃ v, remote.store.getFile (ObjectKey.join [entry, Text.joined "/" rel]) (folder.bare ++ rel) w = .ok () v ∧
        Restored d₀ v.disk home folder.bare (done ++ [rel])) ∨
    (Path.isFarTooLong (folder.bare ++ rel) = true ∧
      ∃ e v, remote.store.getFile (ObjectKey.join [entry, Text.joined "/" rel]) (folder.bare ++ rel) w =
        .error e v) := by
  have inside : rel ∈ rels := by rw [split]; simp
  have proper := h.proper rel inside
  have apart := h.apart split
  obtain ⟨contents, object⟩ := h.object rel inside
  have still : w.disk.find? (home ++ rel) = some (.file contents) := by
    rw [restored.kept make.absent (by rw [object]; simp), object]
  have placed := FolderStore.place_join h.plain h.placed proper.1 proper.isPlain
  have filled : folder.bare ++ rel ≠ [] := fun empty => proper.1 (List.append_eq_nil_iff.1 empty).2
  have named : ∀ name ∈ folder.bare ++ rel, Path.isName name = true := fun name member =>
    (List.mem_append.1 member).elim (make.named name) (proper.2 name)
  have free := restored.free make.absent proper.1 fun rel' old => (apart rel' old).1
  cases far : Path.isFarTooLong (folder.bare ++ rel) with
  | true => exact .inr ⟨rfl, FolderStore.getFile_far h.here h.plain placed still filled (.of_isName named) far free⟩
  | false =>
    obtain ⟨d, got, after⟩ := FolderStore.getFile_ok h.here h.plain placed still filled named far free
      fun q before => restored.clear make.absent make.clear (fun rel' old => (apart rel' old).2)
        (before.trans (List.dropLast_prefix _))
    exact .inl ⟨rfl, _, got, restored.fetch make.absent make.clear apart object after⟩

theorem fetchAll_ok (h : Complete remote root home entry d₀ rels) (make : CanMake d₀ folder)
    (near : ∀ rel ∈ rels, Path.isFarTooLong (folder.bare ++ rel) = false) (key : String)
    {done rest : List Path} (split : rels = done ++ rest) {w : Workspace}
    (restored : Restored d₀ w.disk home folder.bare done) :
    ∃ v, fetchAll remote key entry folder (rest.map (Text.joined "/")) w = .ok none v ∧
      Restored d₀ v.disk home folder.bare rels := by
  induction rest generalizing done w with
  | nil =>
    rw [List.append_nil] at split
    exact ⟨w, rfl, split ▸ restored⟩
  | cons rel rest ih =>
    have inside : rel ∈ rels := by rw [split]; simp
    rcases h.fetch make split restored with ⟨_, v, got, next⟩ | ⟨far, _⟩
    · rw [List.map_cons, fetchAll, target_joined (h.proper rel inside), Job.bind_ok (Job.outcome_ok got)]
      simp only
      rw [Job.bind_ok (Job.debug_run _ _ _)]
      exact ih (by rw [split]; simp) next
    · rw [near rel inside] at far
      cases far

-- Nothing is fetched to a path that is too long.
theorem near_of_fetchAll (h : Complete remote root home entry d₀ rels) (make : CanMake d₀ folder)
    {done rest : List Path} (split : rels = done ++ rest) {w v : Workspace}
    (restored : Restored d₀ w.disk home folder.bare done)
    (fetched : fetchAll remote key entry folder (rest.map (Text.joined "/")) w = .ok none v) :
    ∀ rel ∈ rest, Path.isFarTooLong (folder.bare ++ rel) = false := by
  induction rest generalizing done w with
  | nil =>
    intro rel inside
    cases inside
  | cons rel rest ih =>
    have proper := h.proper rel (by rw [split]; simp)
    rw [List.map_cons, fetchAll, target_joined proper] at fetched
    rcases h.fetch make split restored with ⟨near, w', got, next⟩ | ⟨_, e, w', failed⟩
    · rw [Job.bind_ok (Job.outcome_ok got)] at fetched
      simp only at fetched
      rw [Job.bind_ok (Job.debug_run _ _ _)] at fetched
      intro rel' inside
      rcases List.mem_cons.1 inside with rfl | inside
      · exact near
      · exact ih (by rw [split]; simp) (w := w'.noting _) next fetched rel' inside
    · rw [Job.bind_ok (Job.outcome_error failed)] at fetched
      simp only at fetched
      obtain ⟨_, _, _, ended⟩ := Job.bind_ok_iff.1 fetched
      cases ended

end Complete

theorem staysInside_joined {rel : Path} (proper : Path.IsProper rel) (plain : folder.bare.IsPlain) :
    staysInside folder (Text.joined "/" rel) = true := by
  rw [staysInside, target_joined proper, Bool.and_eq_true, bne_iff_ne,
    Path.isInside_iff (plain.append proper.isPlain)]
  exact ⟨by simpa using proper.1, List.prefix_append _ _⟩

theorem restored_nil {d : Disk} (make : CanMake d₀ folder)
    (after : ∀ q, d.find? q = if q <+: folder.bare then some .folder else d₀.find? q) :
    Restored d₀ d home folder.bare [] := by
  refine ⟨fun rel member => (List.not_mem_nil member).elim, fun q changed => ?_⟩
  rw [after] at changed ⊢
  by_cases before : q <+: folder.bare
  · rw [if_pos before] at changed ⊢
    refine .inr ⟨?_, rfl, .inl before⟩
    have noFile := make.clear q before
    match there : d₀.find? q with
    | none => rfl
    | some .folder => exact absurd there.symm changed
    | some (.file contents) =>
      rw [Disk.file?_eq_some_iff.2 there] at noFile
      cases noFile
  · rw [if_neg before] at changed
    exact absurd rfl changed

/-- An entry with a manifest that lists the files of some relative paths, all of which are there. -/
structure Listed (remote : Remote) (root home : Path) (key entry : String) (d : Disk) (rels : List Path) :
    Prop extends Complete remote root home entry d rels where
  valid : entryKey remote key = .ok entry
  lists : ∃ text, d.find? (home ++ [Manifest.fileName]) = some (.file text) ∧
    Manifest.readFiles (manifestKey entry) (Text.decode text) = .ok (rels.map (Text.joined "/"))

section

variable {w : Workspace} {options : CacheOptions}

-- What a download does once it knows that every listed file stays in the folder.
def restore (remote : Remote) (options : CacheOptions) (key entry : String) (folder : Path) (files : List String) :
    Job Path := do
  Job.ensureFolder folder
  Job.ofExcept (Workers.check (workers options))
  match ← fetchAll remote key entry folder files with
  | some e => throw e
  | none => pure ()
  Job.info "캐시 다운로드 완료"
    [("key", .string key), ("files", .number (.ofNat files.length)), ("localDir", .string folder.text)]
  return folder

theorem Listed.download_eq (h : Listed remote root home key entry w.disk rels) (plain : folder.bare.IsPlain) :
    download remote options key folder w =
      restore remote options key entry folder (rels.map (Text.joined "/")) w := by
  obtain ⟨text, manifest, lists⟩ := h.lists
  have placed : FolderStore.place root (manifestKey entry) = .ok (home ++ [Manifest.fileName]) := by
    have joined := FolderStore.place_join h.plain h.placed isProper_fileName.1 isProper_fileName.isPlain
    rwa [Text.joined_singleton] at joined
  have found := FolderStore.contains_eq h.here h.plain placed w
  rw [manifest] at found
  have inside : (rels.map (Text.joined "/")).find? (fun file => !staysInside folder file) = none := by
    rw [List.find?_eq_none]
    intro file listed
    obtain ⟨rel, member, rfl⟩ := List.mem_map.1 listed
    simp [staysInside_joined (h.proper rel member) plain]
  unfold download
  rw [Job.bind_ok (Job.ofExcept_ok_iff.2 ⟨h.valid, rfl⟩)]
  simp only
  rw [Job.bind_ok found, if_pos (show (some (Entry.file text)).isSome = true from rfl),
    Job.bind_ok (FolderStore.getText_ok h.here h.plain placed manifest), lists,
    Job.bind_ok (Job.ofExcept_ok_iff.2 ⟨rfl, rfl⟩)]
  simp only [inside]
  rfl

-- A download restores what the entry holds under the paths that the manifest lists, and nothing more.
theorem Listed.download_ok (h : Listed remote root home key entry w.disk rels)
    (good : Workers.check (workers options) = .ok ()) (make : CanMake w.disk folder)
    (near : ∀ rel ∈ rels, Path.isFarTooLong (folder.bare ++ rel) = false) :
    ∃ v, download remote options key folder w = .ok folder v ∧
      ∀ rel, v.disk.file? (folder.bare ++ rel) =
        if rel ∈ rels then w.disk.file? (home ++ rel) else none := by
  obtain ⟨d, made, after⟩ := Disk.ensureFolder_of_clear make.near make.named make.clear
  obtain ⟨v, fetched, restored⟩ := h.fetchAll_ok make near key (show rels = [] ++ rels from rfl)
    (w := { w with disk := d }) (restored_nil make after)
  refine ⟨v.noting (.notice ⟨.info, "캐시 다운로드 완료",
      [("key", .string key), ("files", .number (.ofNat (rels.map (Text.joined "/")).length)),
        ("localDir", .string folder.text)]⟩), ?_, fun rel => restored.file? make.absent⟩
  rw [h.download_eq (.of_isName make.named), restore, Job.ensureFolder,
    Job.bind_ok (Job.change_ok_iff.2 ⟨d, made, rfl⟩), Job.bind_ok (Job.ofExcept_ok_iff.2 ⟨good, rfl⟩),
    Job.bind_ok fetched]
  rfl

-- A download that succeeds restores as much. The folder could be made, and no path in it was too long.
theorem Listed.of_download (h : Listed remote root home key entry w.disk rels) (plain : folder.bare.IsPlain)
    (absent : w.disk.find? folder.bare = none) {p : Path} {v : Workspace}
    (ended : download remote options key folder w = .ok p v) :
    (Workers.check (workers options) = .ok () ∧ CanMake w.disk folder ∧
      ∀ rel ∈ rels, Path.isFarTooLong (folder.bare ++ rel) = false) ∧
    p = folder ∧
    ∀ rel, v.disk.file? (folder.bare ++ rel) = if rel ∈ rels then w.disk.file? (home ++ rel) else none := by
  have run := ended
  rw [h.download_eq plain, restore] at run
  obtain ⟨_, w₁, ensured, run⟩ := Job.bind_ok_iff.1 run
  obtain ⟨d, made, rfl⟩ := Job.change_ok_iff.1 ensured
  obtain ⟨_, w₂, checked, run⟩ := Job.bind_ok_iff.1 run
  obtain ⟨good, rfl⟩ := Job.ofExcept_ok_iff.1 checked
  obtain ⟨failure, w₃, fetched, run⟩ := Job.bind_ok_iff.1 run
  have make := canMake_of_ensureFolder plain absent made
  cases failure with
  | some e => cases run
  | none =>
    have near := h.near_of_fetchAll make (show rels = [] ++ rels from rfl)
      (restored_nil make (Disk.find?_of_ensureFolder plain made).2) fetched
    obtain ⟨v', ended', restored⟩ := h.download_ok good make near
    cases ended.symm.trans ended'
    exact ⟨⟨good, make, near⟩, rfl, restored⟩

end

end

end Wheelhouse.Cache
