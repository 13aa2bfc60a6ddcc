import Mathlib.Logic.Relation
import Wheelhouse.Cache.Entry
import Wheelhouse.Proofs.Cache.Manifest
import Wheelhouse.Proofs.Disk.Enumeration
import Wheelhouse.Proofs.Store.Folder

/-!
Uploads to the cache with several workers. The files of a folder are put in any order, and each put may
be refused; when no file is left the upload ends as `finish` says, which puts the manifest if nothing was
refused. Putting the files in the order of their list, as `upload` does, is one way of doing it.
-/

set_option autoImplicit false

namespace Wheelhouse

namespace Path

-- A place below another one, at whatever depth.
def IsBelow (p q : Path) : Prop := ∃ rel, rel ≠ [] ∧ q = p ++ rel

-- The names below a folder that lead to a file or a folder.
def IsProper (rel : List String) : Prop := rel ≠ [] ∧ ∀ name ∈ rel, isName name = true

theorem IsProper.isPlain {rel : List String} (h : IsProper rel) : IsPlain rel := .of_isName h.2

theorem IsProper.segments_joined {rel : List String} (h : IsProper rel) :
    segments (Text.joined "/" rel) = rel :=
  segments_joined_of_isPlain h.1 h.isPlain

theorem IsProper.joined_inj {rel rel' : List String} (h : IsProper rel) (h' : IsProper rel')
    (same : Text.joined "/" rel = Text.joined "/" rel') : rel = rel' := by
  rw [← h.segments_joined, same, h'.segments_joined]

end Path

namespace Cache

/-- A put of an upload: the name of the object in the entry, and whether the store took it. -/
structure Put where
  name : String
  stored : Bool
  deriving DecidableEq

structure Filling where
  waiting : List String
  puts : List Put
  failed : List (String × Failure)
  outcome : Option (Except Failure CacheUpload)
  world : Workspace

-- The put of the manifest, which is asked for when no file has failed.
def manifestPut (remote : Remote) (key entry : String) (files : List String)
    (failed : List (String × Failure)) (w : Workspace) : List Put :=
  if failed.isEmpty then
    match remote.store.putText (manifestKey entry) (Manifest.text ⟨key, files, Calendar.stamp w.now⟩)
        (some "application/json") w with
    | .ok _ _ => [⟨Manifest.fileName, true⟩]
    | .error _ _ => [⟨Manifest.fileName, false⟩]
  else []

namespace Filling

def start (files : List String) (w : Workspace) : Filling := ⟨files, [], [], none, w⟩

inductive Step (remote : Remote) (key entry : String) (folder : Path) (files : List String) :
    Filling → Filling → Prop
  | stored {u : Filling} {file : String} {w : Workspace} (waits : file ∈ u.waiting)
      (put : remote.store.putFile (ObjectKey.join [entry, file]) (target folder file) none u.world =
        .ok () w) :
      Step remote key entry folder files u
        { u with waiting := u.waiting.erase file, puts := u.puts ++ [⟨file, true⟩], world := w }
  | refused {u : Filling} {file : String} {e : Failure} {w : Workspace} (waits : file ∈ u.waiting)
      (put : remote.store.putFile (ObjectKey.join [entry, file]) (target folder file) none u.world =
        .error e w) :
      Step remote key entry folder files u
        { u with waiting := u.waiting.erase file, puts := u.puts ++ [⟨file, false⟩],
                 failed := u.failed ++ [(ObjectKey.join [entry, file], e)],
                 world := w.noting (.notice ⟨.error, "캐시 파일 업로드 실패",
                   [("key", .string (ObjectKey.join [entry, file])), ("error", .string e.message)]⟩) }
  | finish {u : Filling} {r : Except Failure CacheUpload} {w : Workspace} (taken : u.waiting = [])
      (pending : u.outcome = none)
      (ended : Job.outcome (finish remote key entry files u.failed) u.world = .ok r w) :
      Step remote key entry folder files u
        { u with puts := u.puts ++ manifestPut remote key entry files u.failed u.world,
                 outcome := some r, world := w }

abbrev Reaches (remote : Remote) (key entry : String) (folder : Path) (files : List String) :
    Filling → Filling → Prop :=
  Relation.ReflTransGen (Step remote key entry folder files)

end Filling

-- The keys of the objects that the store refused, in the order of the puts.
def refusedKeys (entry : String) (puts : List Put) : List String :=
  (puts.filter fun put => !put.stored).map fun put => ObjectKey.join [entry, put.name]

/-- How an upload ends when it has made some puts: some files were refused; or none was and the manifest
was refused; or everything was stored. Every file has been put once. -/
inductive Ending (entry : String) (files : List String) : List Put → Except Failure CacheUpload → Prop
  | refused {puts : List Put} {cause : Option String} (all : (puts.map Put.name).Perm files)
      (failed : ∃ put ∈ puts, put.stored = false) :
      Ending entry files puts (.error (.publication (Text.sorted (refusedKeys entry puts)) [] [entry] cause))
  | unlisted {puts : List Put} {cause : Option String} (all : (puts.map Put.name).Perm files)
      (stored : ∀ put ∈ puts, put.stored = true) :
      Ending entry files (puts ++ [⟨Manifest.fileName, false⟩])
        (.error (.publication [manifestKey entry] [] [entry] cause))
  | complete {puts : List Put} {upload : CacheUpload} (all : (puts.map Put.name).Perm files)
      (stored : ∀ put ∈ puts, put.stored = true) :
      Ending entry files (puts ++ [⟨Manifest.fileName, true⟩]) (.ok upload)

/-- What is asked of a folder for the entry at a place: it has no file or folder where the manifest is
going to lie, its names are texts of code units, and its files do not lie in the entry themselves. -/
structure IsSource (d : Disk) (home folder : Path) : Prop where
  unnamed : d.find? (folder.bare ++ [Manifest.fileName]) = none
  texts : ∀ rel, d.file? (folder.bare ++ rel) ≠ none → ∀ name ∈ rel, Text.IsWhole name.toList
  apart : ∀ rel, d.file? (folder.bare ++ rel) ≠ none → ¬home.IsBelow (folder.bare ++ rel)

section

variable {remote : Remote} {key entry : String} {files : List String} {w : Workspace}

theorem finish_of_failed {failed : List (String × Failure)} (some_ : failed ≠ []) (w : Workspace) :
    Job.outcome (finish remote key entry files failed) w =
      .ok (.error (.publication (Text.sorted (failed.map (·.1))) [] [entry]
        (failed.getLast?.map fun f => f.2.message))) w := by
  have filled : (!failed.isEmpty) = true := by simpa using some_
  apply Job.outcome_error
  unfold finish
  rw [if_pos filled]
  exact Job.bind_error rfl

theorem finish_of_stored {v : Workspace}
    (put : remote.store.putText (manifestKey entry) (Manifest.text ⟨key, files, Calendar.stamp w.now⟩)
      (some "application/json") w = .ok () v) :
    Job.outcome (finish remote key entry files []) w =
      .ok (.ok ⟨key, files.length, manifestKey entry⟩) (v.noting (.notice ⟨.info, "캐시 업로드 완료",
        [("key", .string key), ("files", .number (.ofNat files.length))]⟩)) := by
  apply Job.outcome_ok
  unfold finish
  rw [if_neg (by decide)]
  beta_reduce
  rw [Job.bind_ok (Job.get_run w), Job.bind_ok (Job.outcome_ok put)]
  rfl

theorem finish_of_refused {e : Failure} {v : Workspace}
    (put : remote.store.putText (manifestKey entry) (Manifest.text ⟨key, files, Calendar.stamp w.now⟩)
      (some "application/json") w = .error e v) :
    Job.outcome (finish remote key entry files []) w =
      .ok (.error (.publication [manifestKey entry] [] [entry] (some e.message))) v := by
  apply Job.outcome_error
  unfold finish
  rw [if_neg (by decide)]
  beta_reduce
  rw [Job.bind_ok (Job.get_run w), Job.bind_ok (Job.outcome_error put)]
  rfl

theorem isProper_fileName : Path.IsProper [Manifest.fileName] := by
  refine ⟨by simp, fun name inside => ?_⟩
  rw [List.mem_singleton.1 inside]
  decide

theorem target_joined {rel : List String} (proper : Path.IsProper rel) (folder : Path) :
    target folder (Text.joined "/" rel) = folder.bare ++ rel := by
  rw [target, proper.segments_joined, Path.descend_of_isPlain proper.isPlain]

end

-- A listed file is named by the way to it.
theorem exists_rel_of_listed {d : Disk} {folder : Path} {files : List String}
    (listed : d.listFilesRecursive folder = .ok files) {f : String} (inside : f ∈ files) :
    ∃ rel contents, Path.IsProper rel ∧ f = Text.joined "/" rel ∧
      d.find? (folder.bare ++ rel) = some (.file contents) := by
  obtain ⟨rel, filled, file, rfl⟩ := (Disk.mem_of_listFilesRecursive listed).1 inside
  have named := Disk.isName_of_find? (Disk.found_of_file? file)
  obtain ⟨contents, file⟩ := Option.ne_none_iff_exists'.1 file
  exact ⟨rel, contents, ⟨filled, fun name inside => named name (List.mem_append_right _ inside)⟩, rfl,
    Disk.file?_eq_some_iff.1 file⟩

theorem mem_map_segments {d : Disk} {folder : Path} {files : List String}
    (listed : d.listFilesRecursive folder = .ok files) {rel : Path} :
    rel ∈ files.map Path.segments ↔ d.file? (folder.bare ++ rel) ≠ none := by
  rw [Disk.mem_segments_of_listed listed, and_iff_right_iff_imp]
  rintro file rfl
  rw [List.append_nil, Disk.file?_of_isFolder (Disk.listFilesRecursive_ok_iff.1 listed).1] at file
  exact file rfl

-- It is enough to ask it of the files that are listed.
theorem IsSource.of_listed {d : Disk} {home folder : Path} {files : List String}
    (listed : d.listFilesRecursive folder = .ok files) (unnamed : d.find? (folder.bare ++ [Manifest.fileName]) = none)
    (texts : ∀ rel ∈ files.map Path.segments, ∀ name ∈ rel, Text.IsWhole name.toList)
    (apart : ∀ rel ∈ files.map Path.segments, ¬home.IsBelow (folder.bare ++ rel)) : IsSource d home folder :=
  ⟨unnamed, fun rel file => texts rel ((mem_map_segments listed).2 file),
    fun rel file => apart rel ((mem_map_segments listed).2 file)⟩

/-- An upload of a folder, the files of which are listed, to the entry at a place of a store in a folder. -/
structure Setting (remote : Remote) (root home folder : Path) (entry : String) (files : List String)
    (w : Workspace) : Prop where
  here : FolderStore.IsAt remote.store root
  plain : root.bare.IsPlain
  placed : FolderStore.place root entry = .ok home
  listed : w.disk.listFilesRecursive folder = .ok files
  source : IsSource w.disk home folder

section

variable {remote : Remote} {root home folder : Path} {key entry : String} {files : List String}
  {w : Workspace}

namespace Setting

theorem mem_files (set : Setting remote root home folder entry files w) {f : String} (listed : f ∈ files) :
    ∃ rel contents, Path.IsProper rel ∧ f = Text.joined "/" rel ∧
      w.disk.find? (folder.bare ++ rel) = some (.file contents) :=
  exists_rel_of_listed set.listed listed

theorem mem_iff (set : Setting remote root home folder entry files w) {rel : Path} :
    rel ∈ files.map Path.segments ↔ w.disk.file? (folder.bare ++ rel) ≠ none :=
  mem_map_segments set.listed

theorem isProper (set : Setting remote root home folder entry files w) {rel : Path}
    (inside : rel ∈ files.map Path.segments) : Path.IsProper rel := by
  obtain ⟨f, listed, rfl⟩ := List.mem_map.1 inside
  obtain ⟨rel, contents, proper, rfl, _⟩ := set.mem_files listed
  rwa [proper.segments_joined]

theorem joined_mem (set : Setting remote root home folder entry files w) {rel : Path}
    (inside : rel ∈ files.map Path.segments) : Text.joined "/" rel ∈ files := by
  obtain ⟨f, listed, rfl⟩ := List.mem_map.1 inside
  obtain ⟨rel, contents, proper, rfl, _⟩ := set.mem_files listed
  rwa [proper.segments_joined]

theorem joined_segments (set : Setting remote root home folder entry files w) :
    (files.map Path.segments).map (Text.joined "/") = files := by
  rw [List.map_map]
  conv_rhs => rw [← List.map_id files]
  refine List.map_congr_left fun f listed => ?_
  obtain ⟨rel, contents, proper, rfl, _⟩ := set.mem_files listed
  rw [Function.comp_apply, proper.segments_joined]
  rfl

-- No file of the folder is or lies below what has the name of the manifest.
theorem not_fileName_prefix (set : Setting remote root home folder entry files w) {rel : Path}
    (found : w.disk.find? (folder.bare ++ rel) ≠ none) : ¬[Manifest.fileName] <+: rel := fun before =>
  found (Disk.find?_eq_none_below set.source.unnamed ((List.prefix_append_right_inj folder.bare).2 before))

theorem fileName_not_mem (set : Setting remote root home folder entry files w) :
    Manifest.fileName ∉ files := by
  intro listed
  obtain ⟨rel, contents, proper, same, found⟩ := set.mem_files listed
  have last : rel = [Manifest.fileName] :=
    proper.joined_inj isProper_fileName (same.symm.trans (Text.joined_singleton _ _).symm)
  rw [last, set.source.unnamed] at found
  cases found

theorem placed_join (set : Setting remote root home folder entry files w) {rel : List String}
    (proper : Path.IsProper rel) :
    FolderStore.place root (ObjectKey.join [entry, Text.joined "/" rel]) = .ok (home ++ rel) :=
  FolderStore.place_join set.plain set.placed proper.1 proper.isPlain

end Setting

theorem refusedKeys_append (entry : String) (puts new : List Put) :
    refusedKeys entry (puts ++ new) = refusedKeys entry puts ++ refusedKeys entry new := by
  rw [refusedKeys, List.filter_append, List.map_append, refusedKeys, refusedKeys]

theorem refusedKeys_eq_nil_iff (entry : String) {puts : List Put} :
    refusedKeys entry puts = [] ↔ ∀ put ∈ puts, put.stored = true := by
  simp [refusedKeys]

theorem Ending.error_iff {puts : List Put} {r : Except Failure CacheUpload} (h : Ending entry files puts r) :
    (∃ e, r = .error e) ↔ ∃ put ∈ puts, put.stored = false := by
  cases h with
  | refused _ failed => exact ⟨fun _ => failed, fun _ => ⟨_, rfl⟩⟩
  | unlisted _ _ => exact ⟨fun _ => ⟨⟨Manifest.fileName, false⟩, by simp, rfl⟩, fun _ => ⟨_, rfl⟩⟩
  | complete _ stored =>
    constructor
    · rintro ⟨e, same⟩
      cases same
    · rintro ⟨put, inside, refused⟩
      rcases List.mem_append.1 inside with file | manifest
      · rw [stored put file] at refused
        cases refused
      · rw [List.mem_singleton.1 manifest] at refused
        cases refused

theorem Ending.failure {puts : List Put} {e : Failure} (h : Ending entry files puts (.error e)) :
    ∃ cause, e = .publication (Text.sorted (refusedKeys entry puts)) [] [entry] cause := by
  cases h with
  | refused _ _ => exact ⟨_, rfl⟩
  | @unlisted puts cause _ stored =>
    refine ⟨cause, ?_⟩
    rw [refusedKeys_append, (refusedKeys_eq_nil_iff entry).2 stored]
    simp [refusedKeys, Text.sorted, manifestKey]

namespace Filling

-- What the disk holds of an upload that began with the disk `d₀`: outside the entry all that was there, in
-- the entry the files that were stored, and nothing else has changed.
structure Filled (home folder : Path) (key : String) (files : List String) (d₀ : Disk) (puts : List Put)
    (d : Disk) : Prop where
  outside : ∀ q, ¬home.IsBelow q → d₀.find? q ≠ none → d.find? q = d₀.find? q
  stored : ∀ rel, Path.IsProper rel → rel ≠ [Manifest.fileName] → ⟨Text.joined "/" rel, true⟩ ∈ puts →
    d.file? (home ++ rel) = d₀.file? (folder.bare ++ rel)
  kept : ∀ rel, Path.IsProper rel → ⟨Text.joined "/" rel, true⟩ ∉ puts →
    d.file? (home ++ rel) = d₀.file? (home ++ rel)
  manifest : ⟨Manifest.fileName, true⟩ ∈ puts → ∃ ms, d.file? (home ++ [Manifest.fileName]) =
    some (Text.encode (Manifest.text ⟨key, files, Calendar.stamp ms⟩))
  unlisted : ⟨Manifest.fileName, true⟩ ∉ puts →
    d.find? (home ++ [Manifest.fileName]) = d₀.find? (home ++ [Manifest.fileName])
  beside : ∀ q, ¬home.IsBelow q → ¬q <+: home → d.find? q = d₀.find? q

-- The invariant of an upload that began in the workspace `w`.
structure Sound (home folder : Path) (key entry : String) (files : List String) (w : Workspace)
    (u : Filling) : Prop where
  filled : Filled home folder key files w.disk u.puts u.world.disk
  pending : u.outcome = none → u.failed.map Prod.fst = refusedKeys entry u.puts ∧
    (u.waiting ++ u.puts.map Put.name).Perm files
  ended : ∀ r, u.outcome = some r → u.waiting = [] ∧ Ending entry files u.puts r

theorem start_sound (home folder : Path) (key entry : String) (files : List String) (w : Workspace) :
    (start files w).Sound home folder key entry files w where
  filled :=
    { outside := fun _ _ _ => rfl
      stored := fun _ _ _ put => by cases put
      kept := fun _ _ _ => rfl
      manifest := fun put => by cases put
      unlisted := fun _ => rfl
      beside := fun _ _ _ => rfl }
  pending _ := ⟨rfl, by simp [start]⟩
  ended _ outcome := by cases outcome

theorem mem_append_ne {puts : List Put} {put new : Put} (other : put ≠ new) :
    put ∈ puts ++ [new] ↔ put ∈ puts := by
  rw [List.mem_append, List.mem_singleton, or_iff_left other]

-- What is on the way to a place of the entry, but not in it, is on the way to the entry.
theorem prefix_of_not_isBelow {q rel : Path} (outside : ¬home.IsBelow q) (before : q <+: home ++ rel) : q <+: home := by
  rcases List.prefix_or_prefix_of_prefix before (List.prefix_append home rel) with above | ⟨rest, rfl⟩
  · exact above
  · by_cases empty : rest = []
    · subst empty
      simp
    · exact absurd ⟨rest, empty, rfl⟩ outside

-- A put that is refused leaves at most folders behind, none of them where the manifest lies.
theorem Filled.gains {d₀ d d' : Disk} {puts : List Put} (h : Filled home folder key files d₀ puts d)
    {rel : List String} (proper : Path.IsProper rel) (aside : ¬[Manifest.fileName] <+: rel.dropLast)
    (gains : d.Gains d' (home ++ rel).dropLast) (name : String) :
    Filled home folder key files d₀ (puts ++ [⟨name, false⟩]) d' := by
  have new (other : String) : Put.mk other true ≠ ⟨name, false⟩ := fun same => by cases (Put.mk.inj same).2
  refine ⟨fun q above there => ?_, fun r properR other put => ?_, fun r properR put => ?_, fun put => ?_,
    fun put => ?_, fun q outside aside => ?_⟩
  · have same := h.outside q above there
    rw [← same]
    exact gains.kept (by rwa [same])
  · rw [← h.stored r properR other ((mem_append_ne (new _)).1 put)]
    exact gains.file? _
  · rw [← h.kept r properR fun inside => put (List.mem_append_left _ inside)]
    exact gains.file? _
  · obtain ⟨ms, there⟩ := h.manifest ((mem_append_ne (new _)).1 put)
    exact ⟨ms, by rw [← there]; exact gains.file? _⟩
  · rw [← h.unlisted fun inside => put (List.mem_append_left _ inside)]
    refine gains.outside fun before => aside ?_
    rw [List.dropLast_append_of_ne_nil proper.1] at before
    exact (List.prefix_append_right_inj home).1 before
  · rw [← h.beside q outside aside]
    exact gains.outside fun before => aside (prefix_of_not_isBelow outside (before.trans (List.dropLast_prefix _)))

-- A put that is stored sets one place of the entry.
theorem Filled.stores {d₀ d d' : Disk} {puts : List Put} (h : Filled home folder key files d₀ puts d)
    {rel : List String} (proper : Path.IsProper rel) (aside : ¬[Manifest.fileName] <+: rel.dropLast)
    {contents : ByteArray} (stores : d.Stores d' (home ++ rel) contents)
    (file : rel ≠ [Manifest.fileName] → d₀.file? (folder.bare ++ rel) = some contents)
    (manifest : rel = [Manifest.fileName] → ∃ ms,
      contents = Text.encode (Manifest.text ⟨key, files, Calendar.stamp ms⟩)) :
    Filled home folder key files d₀ (puts ++ [⟨Text.joined "/" rel, true⟩]) d' := by
  have apart {r : List String} (other : r ≠ rel) : home ++ r ≠ home ++ rel :=
    fun same => other (List.append_cancel_left same)
  have self : d'.file? (home ++ rel) = some contents := Disk.file?_eq_some_iff.2 stores.find?_self
  refine ⟨fun q above there => ?_, fun r properR other put => ?_, fun r properR put => ?_, fun put => ?_,
    fun put => ?_, fun q outside aside => ?_⟩
  · have same := h.outside q above there
    rw [← same]
    exact stores.find?_of_ne (fun last => above ⟨rel, proper.1, last⟩) (by rwa [same])
  · by_cases same : r = rel
    · subst same
      rw [self, file other]
    · have new : Put.mk (Text.joined "/" r) true ≠ ⟨Text.joined "/" rel, true⟩ :=
        fun h => same (properR.joined_inj proper (Put.mk.inj h).1)
      rw [← h.stored r properR other ((mem_append_ne new).1 put)]
      exact stores.file?_of_ne (apart same)
  · have other : r ≠ rel := by
      rintro rfl
      exact put (by simp)
    rw [← h.kept r properR fun inside => put (List.mem_append_left _ inside)]
    exact stores.file?_of_ne (apart other)
  · by_cases last : rel = [Manifest.fileName]
    · obtain ⟨ms, same⟩ := manifest last
      exact ⟨ms, by rw [← last, self, same]⟩
    · have new : Put.mk Manifest.fileName true ≠ ⟨Text.joined "/" rel, true⟩ := by
        intro h
        exact last (proper.joined_inj isProper_fileName ((Put.mk.inj h).1.symm.trans (Text.joined_singleton _ _).symm))
      obtain ⟨ms, there⟩ := h.manifest ((mem_append_ne new).1 put)
      exact ⟨ms, by rw [← there]; exact stores.file?_of_ne (apart (Ne.symm last))⟩
  · have other : [Manifest.fileName] ≠ rel := by
      rintro rfl
      exact put (by simp [Text.joined_singleton])
    rw [← h.unlisted fun inside => put (List.mem_append_left _ inside)]
    refine stores.find?_outside (apart other) fun before => aside ?_
    rw [List.dropLast_append_of_ne_nil proper.1] at before
    exact (List.prefix_append_right_inj home).1 before
  · rw [← h.beside q outside aside]
    exact stores.find?_outside (fun same => outside ⟨rel, proper.1, same⟩)
      fun before => aside (prefix_of_not_isBelow outside (before.trans (List.dropLast_prefix _)))

theorem Sound.outcome_eq_none {u : Filling} (h : u.Sound home folder key entry files w) {f : String}
    (waits : f ∈ u.waiting) : u.outcome = none := by
  cases outcome : u.outcome with
  | none => rfl
  | some r =>
    rw [(h.ended r outcome).1] at waits
    cases waits

theorem Sound.mem_files {u : Filling} (h : u.Sound home folder key entry files w) {f : String}
    (waits : f ∈ u.waiting) : f ∈ files :=
  (h.pending (h.outcome_eq_none waits)).2.subset (List.mem_append_left _ waits)

-- A put of a file, whether it is stored or refused, with the disk that it leaves.
theorem Sound.put {u : Filling} (h : u.Sound home folder key entry files w) {file : String}
    (waits : file ∈ u.waiting) (b : Bool) {failed : List (String × Failure)} {v : Workspace}
    (filled : Filled home folder key files w.disk (u.puts ++ [⟨file, b⟩]) v.disk)
    (keys : failed.map Prod.fst = u.failed.map Prod.fst ++ refusedKeys entry [⟨file, b⟩]) :
    Sound home folder key entry files w
      { u with waiting := u.waiting.erase file, puts := u.puts ++ [⟨file, b⟩], failed := failed,
               world := v } := by
  have going := h.outcome_eq_none waits
  obtain ⟨same, all⟩ := h.pending going
  refine ⟨filled, fun _ => ⟨?_, ?_⟩, fun r outcome => ?_⟩
  · rw [refusedKeys_append, keys, same]
  · have moved := ((List.perm_cons_erase waits).append_right (u.puts.map Put.name)).symm.trans all
    refine List.Perm.trans ?_ moved
    rw [List.map_append, ← List.append_assoc]
    exact List.perm_append_singleton _ _
  · cases outcome.symm.trans going

-- The end of an upload, with the puts that it adds and the disk that it leaves.
theorem Sound.close {u : Filling} (taken : u.waiting = []) {puts : List Put}
    {r : Except Failure CacheUpload} {v : Workspace}
    (filled : Filled home folder key files w.disk (u.puts ++ puts) v.disk)
    (ending : Ending entry files (u.puts ++ puts) r) :
    Sound home folder key entry files w { u with puts := u.puts ++ puts, outcome := some r, world := v } where
  filled := filled
  pending going := by cases going
  ended r' outcome := by
    cases outcome
    exact ⟨taken, ending⟩

theorem Sound.finish {u : Filling} (h : u.Sound home folder key entry files w)
    (set : Setting remote root home folder entry files w) (taken : u.waiting = [])
    (pending : u.outcome = none) {r : Except Failure CacheUpload} {v : Workspace}
    (ended : Job.outcome (Cache.finish remote key entry files u.failed) u.world = .ok r v) :
    Sound home folder key entry files w
      { u with puts := u.puts ++ manifestPut remote key entry files u.failed u.world,
               outcome := some r, world := v } := by
  obtain ⟨keys, all⟩ := h.pending pending
  rw [taken, List.nil_append] at all
  have alone : ¬[Manifest.fileName] <+: [Manifest.fileName].dropLast := by simp
  by_cases clean : u.failed = []
  · have stored : ∀ put ∈ u.puts, put.stored = true := by
      refine (refusedKeys_eq_nil_iff entry).1 ?_
      rw [← keys, clean, List.map_nil]
    have ends := FolderStore.putText_ends set.here set.plain (set.placed_join isProper_fileName)
      (Manifest.text ⟨key, files, Calendar.stamp u.world.now⟩) (some "application/json") u.world
    rw [Text.joined_singleton] at ends
    cases put : remote.store.putText (manifestKey entry)
        (Manifest.text ⟨key, files, Calendar.stamp u.world.now⟩) (some "application/json") u.world with
    | ok _ w' =>
      have asks : manifestPut remote key entry files u.failed u.world = [⟨Manifest.fileName, true⟩] := by
        rw [manifestPut, clean, List.isEmpty_nil, if_pos rfl, put]
      rw [clean, finish_of_stored put] at ended
      rw [manifestKey] at put
      rw [put] at ends
      cases ends with
      | stored stores =>
        cases ended
        have filled := h.filled.stores isProper_fileName alone stores (fun other => absurd rfl other)
          fun _ => ⟨u.world.now, rfl⟩
        rw [Text.joined_singleton] at filled
        rw [asks]
        exact .close taken filled (.complete all stored)
    | error e w' =>
      have asks : manifestPut remote key entry files u.failed u.world = [⟨Manifest.fileName, false⟩] := by
        rw [manifestPut, clean, List.isEmpty_nil, if_pos rfl, put]
      rw [clean, finish_of_refused put] at ended
      rw [manifestKey] at put
      rw [put] at ends
      cases ends with
      | failed gains =>
        cases ended
        rw [asks]
        exact .close taken (h.filled.gains isProper_fileName alone gains _) (.unlisted all stored)
  · have failed : ∃ put ∈ u.puts, put.stored = false := by
      by_contra none
      have stored : refusedKeys entry u.puts = [] := (refusedKeys_eq_nil_iff entry).2 (by simpa using none)
      rw [← keys] at stored
      exact clean (List.map_eq_nil_iff.1 stored)
    have asks : manifestPut remote key entry files u.failed u.world = [] := by
      rw [manifestPut, if_neg (by simpa using clean)]
    have mapped : u.failed.map (fun f => f.1) = refusedKeys entry u.puts := keys
    rw [finish_of_failed clean, mapped] at ended
    cases ended
    rw [asks]
    refine .close taken ?_ ?_
    · rw [List.append_nil]
      exact h.filled
    · rw [List.append_nil]
      exact .refused all failed

-- A put of a file finds it in the folder as it was when the upload began.
theorem Sound.putFile_ends {u : Filling} (h : u.Sound home folder key entry files w)
    (set : Setting remote root home folder entry files w) {file : String} (waits : file ∈ u.waiting) :
    ∃ rel contents, Path.IsProper rel ∧ file = Text.joined "/" rel ∧ rel ≠ [Manifest.fileName] ∧
      ¬[Manifest.fileName] <+: rel.dropLast ∧ w.disk.file? (folder.bare ++ rel) = some contents ∧
      FolderStore.PutEnds u.world.disk (home ++ rel) contents
        (remote.store.putFile (ObjectKey.join [entry, file]) (target folder file) none u.world) := by
  obtain ⟨rel, contents, proper, rfl, found⟩ := set.mem_files (h.mem_files waits)
  have file := Disk.file?_eq_some_iff.2 found
  have apart := set.source.apart rel (by rw [file]; simp)
  have still : u.world.disk.find? (target folder (Text.joined "/" rel)) = some (.file contents) := by
    rw [target_joined proper, h.filled.outside _ apart (by rw [found]; simp), found]
  have unnamed : ¬[Manifest.fileName] <+: rel := set.not_fileName_prefix (by rw [found]; simp)
  refine ⟨rel, contents, proper, rfl, fun same => unnamed (same ▸ List.prefix_rfl),
    fun before => unnamed (before.trans (List.dropLast_prefix rel)), file, ?_⟩
  refine FolderStore.putFile_ends set.here set.plain (set.placed_join proper) ?_ ?_ still none
  · exact fun empty => proper.1 (List.append_eq_nil_iff.1 empty).2
  · intro name last
    rw [List.getLast?_append_of_ne_nil _ proper.1] at last
    exact proper.2 name (List.mem_of_getLast? last)

theorem Sound.step {u v : Filling} (h : u.Sound home folder key entry files w)
    (set : Setting remote root home folder entry files w) (step : u.Step remote key entry folder files v) :
    v.Sound home folder key entry files w := by
  cases step with
  | stored waits put =>
    obtain ⟨rel, contents, proper, rfl, other, aside, file, ends⟩ := h.putFile_ends set waits
    rw [put] at ends
    cases ends with
    | stored stores =>
      exact h.put waits true (h.filled.stores proper aside stores (fun _ => file)
        fun same => absurd same other) (by simp [refusedKeys])
  | refused waits put =>
    obtain ⟨rel, contents, proper, rfl, other, aside, file, ends⟩ := h.putFile_ends set waits
    rw [put] at ends
    cases ends with
    | failed gains => exact h.put waits false (h.filled.gains proper aside gains _) (by simp [refusedKeys])
  | finish taken pending ended => exact h.finish set taken pending ended

theorem Sound.reaches {u v : Filling} (h : u.Sound home folder key entry files w)
    (set : Setting remote root home folder entry files w)
    (steps : u.Reaches remote key entry folder files v) : v.Sound home folder key entry files w := by
  induction steps with
  | refl => exact h
  | tail _ step ih => exact ih.step set step

theorem putAll_stored {file : String} {v : Workspace}
    (put : remote.store.putFile (ObjectKey.join [entry, file]) (target folder file) none w = .ok () v) (rest : List String) :
    putAll remote entry folder (file :: rest) w = putAll remote entry folder rest v := by
  rw [putAll, Job.bind_ok (Job.outcome_ok put)]

theorem putAll_refused {file : String} {e : Failure} {v v' : Workspace} {rest : List String}
    {more : List (String × Failure)}
    (put : remote.store.putFile (ObjectKey.join [entry, file]) (target folder file) none w = .error e v)
    (puts : putAll remote entry folder rest (v.noting (.notice ⟨.error, "캐시 파일 업로드 실패",
      [("key", .string (ObjectKey.join [entry, file])), ("error", .string e.message)]⟩)) = .ok more v') :
    putAll remote entry folder (file :: rest) w = .ok ((ObjectKey.join [entry, file], e) :: more) v' := by
  rw [putAll, Job.bind_ok (Job.outcome_error put)]
  simp only
  rw [Job.bind_ok (Job.error_run _ _ _), Job.bind_ok puts]
  rfl

-- `putAll` is the work of a single worker, who takes the files in the order of their list.
theorem putAll_reaches (remote : Remote) (key entry : String) (folder : Path) (files : List String)
    (u : Filling) : ∃ v failed, putAll remote entry folder u.waiting u.world = .ok failed v.world ∧
      u.Reaches remote key entry folder files v ∧ v.waiting = [] ∧ v.outcome = u.outcome ∧
      v.failed = u.failed ++ failed := by
  obtain ⟨waiting, puts, failed, outcome, world⟩ := u
  induction waiting generalizing puts failed world with
  | nil => exact ⟨_, [], rfl, .refl, rfl, rfl, by simp⟩
  | cons file rest ih =>
    cases put : remote.store.putFile (ObjectKey.join [entry, file]) (target folder file) none world with
    | ok _ w' =>
      obtain ⟨v, more, puts', steps, taken, same, all⟩ := ih (puts ++ [⟨file, true⟩]) failed w'
      exact ⟨v, more, (putAll_stored put rest).trans puts',
        .head (.stored List.mem_cons_self put) (by simpa using steps), taken, same, all⟩
    | error e w' =>
      obtain ⟨v, more, puts', steps, taken, same, all⟩ := ih (puts ++ [⟨file, false⟩])
        (failed ++ [(ObjectKey.join [entry, file], e)])
        (w'.noting (.notice ⟨.error, "캐시 파일 업로드 실패",
          [("key", .string (ObjectKey.join [entry, file])), ("error", .string e.message)]⟩))
      exact ⟨v, (ObjectKey.join [entry, file], e) :: more, putAll_refused put puts',
        .head (.refused List.mem_cons_self put) (by simpa using steps), taken, same, by simpa using all⟩

theorem upload_eq {options : CacheOptions} (valid : entryKey remote key = .ok entry)
    (good : Workers.check (workers options) = .ok ())
    (listed : w.disk.listFilesRecursive folder = .ok files) :
    upload remote options key folder w =
      (putAll remote entry folder files >>= fun failed => Cache.finish remote key entry files failed) w := by
  have there : w.disk.has folder = true :=
    Disk.has_of_list (Disk.list_of_find? (Disk.listFilesRecursive_ok_iff.1 listed).1)
  unfold upload
  rw [Job.bind_ok (Job.ofExcept_ok_iff.2 ⟨valid, rfl⟩), Job.bind_ok (Job.has_run folder w), there, if_pos rfl]
  beta_reduce
  rw [Job.bind_ok (Job.look_ok_iff.2 ⟨listed, rfl⟩), Job.bind_ok (Job.ofExcept_ok_iff.2 ⟨good, rfl⟩)]

theorem upload_ok (options : CacheOptions) {v v' : Workspace} (valid : entryKey remote key = .ok entry)
    (good : Workers.check (workers options) = .ok ()) (listed : w.disk.listFilesRecursive folder = .ok files)
    (put : putAll remote entry folder files w = .ok [] v)
    (manifest : remote.store.putText (manifestKey entry) (Manifest.text ⟨key, files, Calendar.stamp v.now⟩)
      (some "application/json") v = .ok () v') :
    ∃ x u, upload remote options key folder w = .ok x u ∧ u.disk = v'.disk := by
  rw [upload_eq valid good listed, Job.bind_ok put]
  exact ⟨_, _, Job.ok_of_outcome (finish_of_stored manifest), rfl⟩

theorem upload_error (options : CacheOptions) {v : Workspace} {failed : List (String × Failure)}
    (valid : entryKey remote key = .ok entry) (good : Workers.check (workers options) = .ok ())
    (listed : w.disk.listFilesRecursive folder = .ok files)
    (put : putAll remote entry folder files w = .ok failed v) (some_ : failed ≠ []) :
    upload remote options key folder w = .error (.publication (Text.sorted (failed.map (·.1))) [] [entry]
      (failed.getLast?.map fun f => f.2.message)) v := by
  rw [upload_eq valid good listed, Job.bind_ok put]
  exact Job.error_of_outcome (finish_of_failed some_ v)

-- `upload` is an upload to the end.
theorem upload_reaches {options : CacheOptions} (valid : entryKey remote key = .ok entry)
    (good : Workers.check (workers options) = .ok ())
    (listed : w.disk.listFilesRecursive folder = .ok files) :
    ∃ u r, (start files w).Reaches remote key entry folder files u ∧ u.outcome = some r ∧
      Job.outcome (upload remote options key folder) w = .ok r u.world := by
  obtain ⟨v, failed, put, steps, taken, pending, all⟩ :=
    putAll_reaches remote key entry folder files (start files w)
  change putAll remote entry folder files w = _ at put
  have failed' : v.failed = failed := by rw [all]; rfl
  have run := upload_eq valid good listed
  rw [Job.bind_ok put, ← failed'] at run
  cases ended : Cache.finish remote key entry files v.failed v.world with
  | ok x w' =>
    have outcome := Job.outcome_ok ended
    exact ⟨_, .ok x, steps.tail (.finish taken pending outcome), rfl, Job.outcome_ok (run.trans ended)⟩
  | error e w' =>
    have outcome := Job.outcome_error ended
    exact ⟨_, .error e, steps.tail (.finish taken pending outcome), rfl, Job.outcome_error (run.trans ended)⟩

end Filling

end

end Cache

end Wheelhouse
