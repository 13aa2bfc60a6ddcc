import Wheelhouse.Cache.Entry
import Wheelhouse.Proofs.Cache.Manifest
import Wheelhouse.Proofs.Store.Fetch

/-!
Downloads stay in their folder. Whatever a manifest lists, a download changes nothing on the disk but what
lies strictly below its folder, and the folders that are missing on the way there; and it makes nothing at
all, not even the folder, unless the manifest lists files all of which go below the folder.
-/

set_option autoImplicit false

namespace Wheelhouse

namespace Manifest

-- Texts of an object that lists some files.
def Lists (text : String) (files : List String) : Prop :=
  ∃ members, Json.parse text = .ok (.object members) ∧
    members.lookup "files" = some (.array (files.map .string))

theorem mapM_string?_eq_some_iff {items : List Json} {files : List String} :
    items.mapM Json.string? = some files ↔ items = files.map .string := by
  constructor
  · induction items generalizing files with
    | nil =>
      intro listed
      cases listed
      rfl
    | cons item items ih =>
      intro listed
      cases item with
      | string text =>
        simp only [List.mapM_cons, Json.string?, Option.pure_def, Option.bind_eq_bind, Option.bind_eq_some_iff,
          Option.some.injEq] at listed
        obtain ⟨_, rfl, rest, others, rfl⟩ := listed
        rw [List.map_cons, ← ih others]
      | _ => simp [Json.string?] at listed
  · rintro rfl
    exact mapM_string? files

theorem files?_eq_some_iff {v : Json} {files : List String} : files? v = some files ↔
    ∃ members, v = .object members ∧ members.lookup "files" = some (.array (files.map .string)) := by
  constructor
  · intro listed
    cases v with
    | object members =>
      simp only [files?, Option.bind_eq_some_iff] at listed
      obtain ⟨items, ⟨value, found, array⟩, strings⟩ := listed
      cases value with
      | array _ =>
        cases array
        rw [mapM_string?_eq_some_iff.1 strings] at found
        exact ⟨members, rfl, found⟩
      | _ => cases array
    | _ => cases listed
  · rintro ⟨members, rfl, found⟩
    rw [files?, found]
    exact mapM_string? files

theorem readFiles_ok_iff {place text : String} {files : List String} :
    readFiles place text = .ok files ↔ Lists text files := by
  unfold readFiles Lists
  cases Json.parse text with
  | error fault => simp
  | ok v =>
    simp only [Except.ok.injEq, ← files?_eq_some_iff]
    cases files? v <;> simp

end Manifest

namespace Cache

def GoesBelow (folder : Path) (file : String) : Prop :=
  folder.bare <+: target folder file ∧ target folder file ≠ folder.bare

variable {remote : Remote} {folder : Path} {key entry : String} {files : List String}

-- Every folder that a text means is one that a download can be asked for.
theorem isPlain_bare_join {cwd : Path} (plain : cwd.IsPlain) (text : String) : (Path.join cwd text).bare.IsPlain := by
  have unbroken : ∀ name ∈ Path.segments text, '/' ∉ name.toList :=
    fun _ inside => Path.slash_not_mem_of_mem_segments inside
  have resolved : (Path.resolve cwd text).IsPlain := by
    unfold Path.resolve
    split
    · exact Path.isPlain_descend (by simp [Path.IsPlain]) unbroken
    · exact Path.isPlain_descend plain unbroken
  simp only [Path.join]
  split
  · rwa [Path.bare_append_slash]
  · rwa [resolved.bare]

theorem isPlain_target (plain : folder.bare.IsPlain) (file : String) : (target folder file).IsPlain :=
  Path.isPlain_descend plain fun _ inside => Path.slash_not_mem_of_mem_segments inside

theorem staysInside_iff (plain : folder.bare.IsPlain) (file : String) :
    staysInside folder file = true ↔ GoesBelow folder file := by
  rw [staysInside, Bool.and_eq_true, bne_iff_ne, Path.isInside_iff (isPlain_target plain file), and_comm]
  rfl

theorem goesBelow_of_find? (plain : folder.bare.IsPlain)
    (none : (files.find? fun file => !staysInside folder file) = none) : ∀ file ∈ files, GoesBelow folder file := by
  intro file inside
  have stays := List.find?_eq_none.1 none file inside
  exact (staysInside_iff plain file).1 (by simpa using stays)

theorem respects_fetchAll {R : Workspace → Workspace → Prop} [IsPreorder Workspace R]
    (still : ∀ w v, Job.SameDisk w v → R w v) (fetched : ∀ file ∈ files,
      Respects R (remote.store.getFile (ObjectKey.join [entry, file]) (target folder file))) :
    Respects R (fetchAll remote key entry folder files) := by
  induction files with
  | nil => exact fun w => refl_of R w
  | cons file rest ih =>
    have later := ih fun other inside => fetched other (List.mem_cons_of_mem _ inside)
    refine (Job.respects_outcome (fetched file List.mem_cons_self)).bind fun outcome => ?_
    cases outcome with
    | ok _ => exact ((Job.isIdle_record _).keepsDisk.respects still).bind fun _ => later
    | error e => exact later.bind fun _ => (Job.isIdle_pure _).keepsDisk.respects still

-- The part of a download that makes something.
def fetchListed (remote : Remote) (options : CacheOptions) (key entry : String) (folder : Path)
    (files : List String) : Job Path := do
  Job.ensureFolder folder
  Job.ofExcept (Workers.check (workers options))
  match ← fetchAll remote key entry folder files with
  | some e => throw e
  | none => pure ()
  Job.info "캐시 다운로드 완료"
    [("key", .string key), ("files", .number (.ofNat files.length)), ("localDir", .string folder.text)]
  return folder

theorem respects_fetchListed {R : Workspace → Workspace → Prop} [IsPreorder Workspace R]
    (still : ∀ w v, Job.SameDisk w v → R w v) (made : Respects R (Job.ensureFolder folder)) (fetched : ∀ file ∈ files,
      Respects R (remote.store.getFile (ObjectKey.join [entry, file]) (target folder file))) (options : CacheOptions) :
    Respects R (fetchListed remote options key entry folder files) := by
  refine made.bind fun _ => ((Job.keepsDisk_ofExcept _).respects still).bind fun _ =>
    (respects_fetchAll still fetched).bind fun failure => ?_
  cases failure with
  | some e => exact (Job.keepsDisk_throw e).respects still
  | none =>
    refine ((Job.isIdle_record _).bind fun _ => ?_).keepsDisk.respects still
    exact Job.isIdle_pure folder

theorem confined_fetchListed (built : remote.store.IsBuilt) (plain : folder.bare.IsPlain) (options : CacheOptions)
    (key entry : String) (below : ∀ file ∈ files, GoesBelow folder file) :
    Respects (Job.Confined folder.bare) (fetchListed remote options key entry folder files) := by
  refine respects_fetchListed Job.sameDisk_confined ?_ (fun file inside => ?_) options
  · exact Job.respects_change (Disk.respects_ensureFolder List.prefix_rfl)
  · obtain ⟨under, proper⟩ := below file inside
    exact built.respects_getFile (ObjectKey.join [entry, file]) (isPlain_target plain file) under proper

/-- What a download finds that goes on to make its folder: a manifest that lists files, all of which go
below the folder. -/
structure Accepts (remote : Remote) (key : String) (folder : Path) (w : Workspace) (entry : String)
    (files : List String) (v : Workspace) : Prop where
  valid : entryKey remote key = .ok entry
  manifest : ∃ u text, remote.store.contains (manifestKey entry) w = .ok true u ∧
    remote.store.getText (manifestKey entry) u = .ok text v ∧ Manifest.Lists text files
  below : ∀ file ∈ files, GoesBelow folder file

theorem Accepts.download_eq {w v : Workspace} (accepts : Accepts remote key folder w entry files v)
    (plain : folder.bare.IsPlain) (options : CacheOptions) :
    download remote options key folder w = fetchListed remote options key entry folder files v := by
  obtain ⟨u, text, looked, read, lists⟩ := accepts.manifest
  have inside : files.find? (fun file => !staysInside folder file) = none := by
    rw [List.find?_eq_none]
    intro file listed
    simp [(staysInside_iff plain file).2 (accepts.below file listed)]
  unfold download
  rw [Job.bind_ok (Job.ofExcept_ok_iff.2 ⟨accepts.valid, rfl⟩)]
  simp only
  rw [Job.bind_ok looked, if_pos rfl, Job.bind_ok read,
    Job.bind_ok (Job.ofExcept_ok_iff.2 ⟨Manifest.readFiles_ok_iff.2 lists, rfl⟩), inside]
  rfl

-- Either a download fails and has done nothing, or it has accepted the manifest and goes on.
theorem download_cases (built : remote.store.IsBuilt) (plain : folder.bare.IsPlain) (options : CacheOptions)
    (key : String) (w : Workspace) :
    (∃ e v, download remote options key folder w = .error e v ∧ v.disk = w.disk) ∨
      ∃ entry files v, Accepts remote key folder w entry files v ∧ v.disk = w.disk := by
  unfold download
  cases valid : entryKey remote key with
  | error e => exact .inl ⟨e, w, rfl, rfl⟩
  | ok entry =>
    rw [Job.bind_ok (Job.ofExcept_ok_iff.2 ⟨rfl, rfl⟩)]
    simp only
    rcases built.keepsDisk_contains (manifestKey entry) w with ⟨found, u, looked, same⟩ | ⟨e, u, failed, same⟩
    · rw [Job.bind_ok looked]
      cases found with
      | false => exact .inl ⟨_, u, rfl, same⟩
      | true =>
        rw [if_pos rfl]
        rcases built.keepsDisk_getText (manifestKey entry) u with ⟨text, v, read, same'⟩ | ⟨e, v, failed, same'⟩
        · rw [Job.bind_ok read]
          cases listed : Manifest.readFiles (manifestKey entry) text with
          | error e => exact .inl ⟨e, v, rfl, same'.trans same⟩
          | ok files =>
            rw [Job.bind_ok (Job.ofExcept_ok_iff.2 ⟨rfl, rfl⟩)]
            cases strays : files.find? fun file => !staysInside folder file with
            | some file => exact .inl ⟨_, v, rfl, same'.trans same⟩
            | none =>
              have below := goesBelow_of_find? plain strays
              have manifest := Manifest.readFiles_ok_iff.1 listed
              exact .inr ⟨entry, files, v, ⟨valid, ⟨u, text, looked, read, manifest⟩, below⟩, same'.trans same⟩
        · exact .inl ⟨e, v, Job.bind_error failed, same'.trans same⟩
    · exact .inl ⟨e, u, Job.bind_error failed, same⟩

/-- A download creates and changes nothing but what lies strictly below its folder and the missing folders on
the way to it. It fails before it makes anything unless the manifest is there and lists files which all go
below the folder; then it goes on to fetch them. -/
theorem download_confined (built : remote.store.IsBuilt) (plain : folder.bare.IsPlain) (options : CacheOptions)
    (key : String) (w : Workspace) :
    (∀ q, (final (download remote options key folder) w).disk.find? q ≠ w.disk.find? q →
      (folder.bare <+: q ∧ q ≠ folder.bare) ∨
        (q <+: folder.bare ∧ w.disk.find? q = none ∧
          (final (download remote options key folder) w).disk.find? q = some .folder)) ∧
    ((¬∃ entry files v, Accepts remote key folder w entry files v) →
      ∃ e v, download remote options key folder w = .error e v ∧ v.disk = w.disk) ∧
    ∀ entry files v, Accepts remote key folder w entry files v →
      download remote options key folder w = fetchListed remote options key entry folder files v := by
  refine ⟨?_, ?_, fun _ _ _ accepts => accepts.download_eq plain options⟩
  · rcases download_cases built plain options key w with ⟨e, v, failed, same⟩ | ⟨entry, files, v, accepts, same⟩
    · intro q changed
      rw [final_error failed, same] at changed
      exact absurd rfl changed
    · have confined := confined_fetchListed built plain options key entry accepts.below v
      have ending : final (download remote options key folder) w =
          final (fetchListed remote options key entry folder files) v := by
        rw [final, accepts.download_eq plain options, final]
      rw [ending]
      rwa [Job.Confined, same] at confined
  · intro refused
    rcases download_cases built plain options key w with refusal | ⟨entry, files, v, accepts, _⟩
    · exact refusal
    · exact absurd ⟨entry, files, v, accepts⟩ refused

section Sample

def strayKey : String := "0123456789abcdef-0123456789abcdef"

def strayEntry : String := "cache/0123456789abcdef-0123456789abcdef"

def strayManifest : Manifest := ⟨strayKey, ["a.whl", "../b.whl"], "now"⟩

-- A bucket with a manifest that lists a file beside the folder.
def strayRemote : Remote := ⟨Bucket.store ⟨fun _ => none, fun _ => "", .whole⟩ "b", ""⟩

def strayWorkspace : Workspace :=
  ⟨.empty, [(("b", manifestKey strayEntry), strayManifest.text)], [], [], [], 0⟩

theorem not_accepts_stray :
    ¬∃ entry files v, Accepts strayRemote strayKey ["out"] strayWorkspace entry files v := by
  rintro ⟨entry, files, v, valid, ⟨u, text, looked, read, lists⟩, below⟩
  have entryEq : entryKey strayRemote strayKey = .ok strayEntry := rfl
  cases entryEq.symm.trans valid
  have found : strayRemote.store.contains (manifestKey strayEntry) strayWorkspace =
      .ok true (strayWorkspace.noting (.sent (.head "b" (manifestKey strayEntry)))) := rfl
  cases found.symm.trans looked
  have stored : ∃ v', strayRemote.store.getText (manifestKey strayEntry)
      (strayWorkspace.noting (.sent (.head "b" (manifestKey strayEntry)))) = .ok strayManifest.text v' := ⟨_, rfl⟩
  obtain ⟨v', stored⟩ := stored
  cases stored.symm.trans read
  have single : Text.IsSingle strayKey ∧ (∀ file ∈ strayManifest.files, Text.IsSingle file) ∧ Text.IsSingle "now" := by
    decide
  have written := Manifest.readFiles_text (m := strayManifest) single.1.isWhole
    (fun file inside => (single.2.1 file inside).isWhole) single.2.2.isWhole ""
  cases written.symm.trans (Manifest.readFiles_ok_iff.2 lists)
  have under := (below "../b.whl" (by simp [strayManifest])).1
  revert under
  decide

theorem download_confined_stray :
    strayRemote.store.IsBuilt ∧ Path.IsPlain (Path.bare ["out"]) ∧
      (¬∃ entry files v, Accepts strayRemote strayKey ["out"] strayWorkspace entry files v) ∧
      ∃ e v, download strayRemote ⟨false, none⟩ strayKey ["out"] strayWorkspace = .error e v ∧
        v.disk = strayWorkspace.disk := by
  have built : strayRemote.store.IsBuilt := .bucket _ _
  have named : Path.join [] "out" = ["out"] := by decide +kernel
  have plain : Path.IsPlain (Path.bare ["out"]) := by
    rw [← named]
    exact isPlain_bare_join (by simp [Path.IsPlain]) "out"
  exact ⟨built, plain, not_accepts_stray,
    (download_confined built plain ⟨false, none⟩ strayKey strayWorkspace).2.1 not_accepts_stray⟩

end Sample

end Cache

end Wheelhouse
