import Wheelhouse.Proofs.Cache.Completeness

/-!
Uploads to one entry that follow one another, each with its own folder. Only an upload that ends well
writes a manifest, but one that does not may have stored some of its files before. A download then takes
the list of the last upload that ended well, and every file as it was stored last.
-/

set_option autoImplicit false

namespace Wheelhouse.Cache

/-- An upload to an entry, up to its end or up to where it was broken off. -/
structure Build (root home : Path) (key entry : String) where
  remote : Remote
  folder : Path
  files : List String
  world : Workspace
  run : Filling
  valid : entryKey remote key = .ok entry
  setting : Setting remote root home folder entry files world
  steps : (Filling.start files world).Reaches remote key entry folder files run

variable {root home : Path} {key entry : String}

namespace Build

-- The files of the folder when the upload began.
def tree (b : Build root home key entry) (rel : Path) : Option ByteArray :=
  b.world.disk.file? (b.folder.bare ++ rel)

def hasStored (b : Build root home key entry) (rel : Path) : Bool :=
  b.run.puts.contains ⟨Text.joined "/" rel, true⟩

-- Whether the upload has ended well.
def isComplete (b : Build root home key entry) : Bool :=
  match b.run.outcome with
  | some (.ok _) => true
  | _ => false

variable {b : Build root home key entry} {rel : Path}

theorem sound (b : Build root home key entry) : b.run.Sound home b.folder key entry b.files b.world :=
  (Filling.start_sound home b.folder key entry b.files b.world).reaches b.setting b.steps

theorem hasStored_iff : b.hasStored rel = true ↔ ⟨Text.joined "/" rel, true⟩ ∈ b.run.puts :=
  List.contains_iff_mem

theorem isComplete_iff : b.isComplete = true ↔ ∃ x, b.run.outcome = some (.ok x) := by
  unfold isComplete
  split
  · rename_i x outcome
    exact iff_of_true rfl ⟨x, outcome⟩
  · rename_i other
    exact iff_of_false (by simp) fun ⟨x, outcome⟩ => other x outcome

-- An upload is complete when its manifest has been stored.
theorem isComplete_iff_stored : b.isComplete = true ↔ ⟨Manifest.fileName, true⟩ ∈ b.run.puts := by
  rw [isComplete_iff]
  constructor
  · rintro ⟨x, outcome⟩
    exact (Filling.stored_iff b.setting (b.sound.ended _ outcome).2).2 ⟨x, rfl⟩
  · exact fun manifest => (b.sound.stored_of_manifest b.setting manifest).1

theorem mem_files_iff : rel ∈ b.files.map Path.segments ↔ b.tree rel ≠ none := b.setting.mem_iff

theorem isProper (file : b.tree rel ≠ none) : Path.IsProper rel := b.setting.isProper (mem_files_iff.2 file)

theorem ne_fileName (file : b.tree rel ≠ none) : rel ≠ [Manifest.fileName] := by
  rintro rfl
  have listed := b.setting.joined_mem (mem_files_iff.2 file)
  exact b.setting.fileName_not_mem (Text.joined_singleton "/" Manifest.fileName ▸ listed)

theorem hasStored_of_isComplete (complete : b.isComplete = true) (file : b.tree rel ≠ none) :
    b.hasStored rel = true :=
  hasStored_iff.2 ((b.sound.stored_of_manifest b.setting (isComplete_iff_stored.1 complete)).2 _
    (b.setting.joined_mem (mem_files_iff.2 file)))

theorem mem_files_of_put {put : Put} (inside : put ∈ b.run.puts) :
    put.name ∈ b.files ∨ put.name = Manifest.fileName := by
  have named := List.mem_map_of_mem (f := Put.name) inside
  cases outcome : b.run.outcome with
  | none => exact .inl ((b.sound.pending outcome).2.subset (List.mem_append_right _ named))
  | some r =>
    have ending := (b.sound.ended r outcome).2
    generalize b.run.puts = puts at named ending
    have last {puts : List Put} {stored : Bool} (all : (puts.map Put.name).Perm b.files)
        (named : put.name ∈ (puts ++ [Put.mk Manifest.fileName stored]).map Put.name) :
        put.name ∈ b.files ∨ put.name = Manifest.fileName := by
      rw [List.map_append, List.mem_append, List.map_singleton, List.mem_singleton] at named
      exact named.imp_left fun file => all.subset file
    cases ending with
    | refused all _ => exact .inl (all.subset named)
    | unlisted all _ => exact last all named
    | complete all _ => exact last all named

theorem tree_of_hasStored (proper : Path.IsProper rel) (other : rel ≠ [Manifest.fileName])
    (stored : b.hasStored rel = true) : b.tree rel ≠ none := by
  rcases mem_files_of_put (hasStored_iff.1 stored) with file | manifest
  · exact mem_files_iff.1 (List.mem_map.2 ⟨_, file, proper.segments_joined⟩)
  · exact absurd (proper.joined_inj isProper_fileName (manifest.trans (Text.joined_singleton _ _).symm)) other

end Build

/-- Uploads to an entry that had no manifest, the last one first, with the disk that they leave. Between
two uploads nothing changes in the entry. -/
inductive History (root home : Path) (key entry : String) : List (Build root home key entry) → Disk → Prop
  | start {d : Disk} (unlisted : d.find? (home ++ [Manifest.fileName]) = none) :
      History root home key entry [] d
  | next {builds : List (Build root home key entry)} {d : Disk} (before : History root home key entry builds d)
      (b : Build root home key entry) (same : SameEntry home d b.world.disk) :
      History root home key entry (b :: builds) b.run.world.disk

variable {builds : List (Build root home key entry)} {d : Disk}

-- `upload` is the next upload of a history.
theorem History.upload (before : History root home key entry builds d) {remote : Remote} {options : CacheOptions}
    {folder : Path} {files : List String} {w : Workspace} (valid : entryKey remote key = .ok entry)
    (set : Setting remote root home folder entry files w) (same : SameEntry home d w.disk)
    (good : Workers.check (workers options) = .ok ()) :
    ∃ (b : Build root home key entry) (r : Except Failure CacheUpload),
      b.remote = remote ∧ b.folder = folder ∧ b.world = w ∧ b.run.outcome = some r ∧
        Job.outcome (Cache.upload remote options key folder) w = .ok r b.run.world ∧
          History root home key entry (b :: builds) b.run.world.disk := by
  obtain ⟨u, r, steps, outcome, run⟩ := Filling.upload_reaches valid good set.listed
  let b : Build root home key entry := ⟨remote, folder, files, w, u, valid, set, steps⟩
  exact ⟨b, r, rfl, rfl, rfl, outcome, run, before.next b same⟩

-- What the entry holds after some uploads: every object as it was stored last, and the list of the last
-- upload that ended well.
structure Recorded (builds : List (Build root home key entry)) (d : Disk) : Prop where
  object : ∀ rel, Path.IsProper rel → rel ≠ [Manifest.fileName] →
    ∀ b, builds.find? (fun b => b.hasStored rel) = some b → d.file? (home ++ rel) = b.tree rel
  manifest : ∀ b, builds.find? Build.isComplete = some b → ∃ ms, d.file? (home ++ [Manifest.fileName]) =
    some (Text.encode (Manifest.text ⟨key, b.files, Calendar.stamp ms⟩))
  unlisted : builds.find? Build.isComplete = none → d.find? (home ++ [Manifest.fileName]) = none

namespace Recorded

theorem sameEntry {d' : Disk} (h : Recorded builds d) (same : SameEntry home d d') : Recorded builds d' where
  object rel proper other b last := by rw [same.file? proper.1, h.object rel proper other b last]
  manifest b last := by
    rw [same.file? (by simp)]
    exact h.manifest b last
  unlisted none := by rw [same _ ⟨_, by simp, rfl⟩, h.unlisted none]

theorem next (h : Recorded builds d) (b : Build root home key entry) (same : SameEntry home d b.world.disk) :
    Recorded (b :: builds) b.run.world.disk := by
  have before := h.sameEntry same
  have filled := b.sound.filled
  refine ⟨fun rel proper other c last => ?_, fun c last => ?_, fun none => ?_⟩
  · rw [List.find?_cons] at last
    split at last
    · rename_i stored
      cases last
      exact filled.stored rel proper other (Build.hasStored_iff.1 stored)
    · rename_i refused
      rw [filled.kept rel proper fun put => by rw [Build.hasStored_iff.2 put] at refused; cases refused]
      exact before.object rel proper other c last
  · rw [List.find?_cons] at last
    split at last
    · rename_i complete
      cases last
      exact filled.manifest (Build.isComplete_iff_stored.1 complete)
    · rename_i partly
      have unlisted : ⟨Manifest.fileName, true⟩ ∉ b.run.puts := fun put => by
        rw [Build.isComplete_iff_stored.2 put] at partly
        cases partly
      obtain ⟨ms, text⟩ := before.manifest c last
      refine ⟨ms, ?_⟩
      rw [← text, Disk.file?, filled.unlisted unlisted, Disk.file?]
  · rw [List.find?_cons] at none
    split at none
    · cases none
    · rename_i partly
      have unlisted : ⟨Manifest.fileName, true⟩ ∉ b.run.puts := fun put => by
        rw [Build.isComplete_iff_stored.2 put] at partly
        cases partly
      rw [filled.unlisted unlisted, before.unlisted none]

end Recorded

theorem History.recorded (history : History root home key entry builds d) : Recorded builds d := by
  induction history with
  | start unlisted =>
    exact
      { object := fun _ _ _ _ last => nomatch last
        manifest := fun _ last => nomatch last
        unlisted := fun _ => unlisted }
  | next _ b same ih => exact ih.next b same

/-- The files of an upload when some of them have been stored again by later ones, the last one first. -/
def overlaid (b : Build root home key entry) (later : List (Build root home key entry)) (rel : Path) :
    Option ByteArray :=
  if b.tree rel = none then none
  else
    match later.find? fun c => c.hasStored rel with
    | some c => c.tree rel
    | none => b.tree rel

section

variable {b : Build root home key entry} {later older : List (Build root home key entry)}

-- The overlaid files are those of the upload itself just if no file was last stored with other bytes.
theorem overlaid_eq_tree_iff : (∀ rel, overlaid b later rel = b.tree rel) ↔
    ∀ rel, b.tree rel ≠ none → ∀ c, later.find? (fun c => c.hasStored rel) = some c → c.tree rel = b.tree rel := by
  constructor
  · intro same rel file c last
    have equal := same rel
    rwa [overlaid, if_neg file, last] at equal
  · intro same rel
    rw [overlaid]
    split
    · rename_i missing
      exact missing.symm
    · rename_i file
      split
      · rename_i c last
        exact same rel file c last
      · rfl

theorem History.file?_of_tree (history : History root home key entry (later ++ b :: older) d)
    (complete : b.isComplete = true) {rel : Path} (file : b.tree rel ≠ none) :
    d.file? (home ++ rel) = overlaid b later rel ∧ overlaid b later rel ≠ none := by
  have proper := Build.isProper file
  have other := Build.ne_fileName file
  have object := history.recorded.object rel proper other
  rw [List.find?_append, List.find?_cons, Build.hasStored_of_isComplete complete file] at object
  rw [overlaid, if_neg file]
  split
  · rename_i c last
    rw [last] at object
    have stored := List.find?_some last
    exact ⟨object c rfl, Build.tree_of_hasStored proper other stored⟩
  · rename_i none
    rw [none] at object
    exact ⟨object b rfl, file⟩

theorem Listed.at {remote remote' : Remote} {rels : List Path} (h : Listed remote root home key entry d rels)
    (here : FolderStore.IsAt remote'.store root) (valid : entryKey remote' key = .ok entry) :
    Listed remote' root home key entry d rels :=
  { h with here, valid }

-- What a download finds after some uploads.
theorem History.listed (history : History root home key entry (later ++ b :: older) d)
    (complete : b.isComplete = true) (failed : ∀ c ∈ later, c.isComplete = false) {remote : Remote}
    (here : FolderStore.IsAt remote.store root) (valid : entryKey remote key = .ok entry) {d' : Disk}
    (same : SameEntry home d d') :
    Listed remote root home key entry d' (b.files.map Path.segments) := by
  have last : (later ++ b :: older).find? Build.isComplete = some b :=
    List.find?_eq_some_iff_append.2 ⟨complete, later, older, rfl, fun c inside => by simp [failed c inside]⟩
  obtain ⟨ms, text⟩ := history.recorded.manifest b last
  rw [← same.file? (by simp)] at text
  refine (b.setting.listed_entry b.valid text fun rel inside => ?_).at here valid
  have file := Build.mem_files_iff.1 inside
  obtain ⟨object, there⟩ := history.file?_of_tree complete file
  rw [same.file? (Build.isProper file).1, object]
  exact there

end

section

variable {remote : Remote} {copy : Path} {w : Workspace}

theorem download_of_unlisted {options : CacheOptions} (here : FolderStore.IsAt remote.store root) (plain : root.bare.IsPlain)
    (placed : FolderStore.place root entry = .ok home) (valid : entryKey remote key = .ok entry)
    (unlisted : w.disk.find? (home ++ [Manifest.fileName]) = none) (p : Path) (v : Workspace) :
    download remote options key copy w ≠ .ok p v := by
  intro ended
  have joined := FolderStore.place_join plain placed isProper_fileName.1 isProper_fileName.isPlain
  rw [Text.joined_singleton] at joined
  have found := FolderStore.contains_eq here plain joined w
  rw [unlisted] at found
  unfold download at ended
  rw [Job.bind_ok (Job.ofExcept_ok_iff.2 ⟨valid, rfl⟩)] at ended
  simp only at ended
  rw [manifestKey, Job.bind_ok found, if_neg (by simp)] at ended
  cases ended

/-- A download after some uploads to an entry. It succeeds only if one of them ended well, and gives the
files of the last one that did, each with the bytes that were stored last. So it gives the folder of that
upload just if none of the later uploads, all of which have failed, was the last one to store a file of it
with other bytes. Whatever has been uploaded before, `upload` makes one more of these uploads. -/
theorem download_after_uploads (options : CacheOptions) (history : History root home key entry builds d)
    (here : FolderStore.IsAt remote.store root) (plain : root.bare.IsPlain)
    (placed : FolderStore.place root entry = .ok home) (valid : entryKey remote key = .ok entry)
    (same : SameEntry home d w.disk) (flat : copy.bare.IsPlain) (absent : w.disk.find? copy.bare = none) :
    (∀ p v, download remote options key copy w = .ok p v → ∃ later b older, builds = later ++ b :: older ∧
      b.isComplete = true ∧ (∀ c ∈ later, c.isComplete = false) ∧ p = copy ∧
      (∀ rel, v.disk.file? (copy.bare ++ rel) = overlaid b later rel) ∧
      ((∀ rel, v.disk.file? (copy.bare ++ rel) = b.tree rel) ↔ ∀ rel, b.tree rel ≠ none → ∀ c,
        later.find? (fun c => c.hasStored rel) = some c → c.tree rel = b.tree rel)) ∧
    (∀ b, builds.find? Build.isComplete = some b →
      ((∃ p v, download remote options key copy w = .ok p v) ↔ Workers.check (workers options) = .ok () ∧
        CanMake w.disk copy ∧ ∀ rel, b.tree rel ≠ none → Path.isFarTooLong (copy.bare ++ rel) = false)) ∧
    ∀ remote options folder files w, entryKey remote key = .ok entry → Setting remote root home folder entry files w →
      SameEntry home d w.disk → Workers.check (workers options) = .ok () →
        ∃ (b : Build root home key entry) (r : Except Failure CacheUpload),
          b.remote = remote ∧ b.folder = folder ∧ b.world = w ∧ b.run.outcome = some r ∧
            Job.outcome (upload remote options key folder) w = .ok r b.run.world ∧
              History root home key entry (b :: builds) b.run.world.disk := by
  refine ⟨?_, ?_, fun remote options folder files w valid set same good => history.upload valid set same good⟩
  · intro p v ended
    cases last : builds.find? Build.isComplete with
    | none =>
      have unlisted := (history.recorded.sameEntry same).unlisted last
      exact absurd ended (download_of_unlisted here plain placed valid unlisted p v)
    | some b =>
      obtain ⟨complete, later, older, rfl, failed⟩ := List.find?_eq_some_iff_append.1 last
      have failed' : ∀ c ∈ later, c.isComplete = false := fun c inside => by simpa using failed c inside
      have listed := history.listed complete failed' here valid same
      obtain ⟨_, rfl, restored⟩ := listed.of_download flat absent ended
      have result (rel : Path) : v.disk.file? (p.bare ++ rel) = overlaid b later rel := by
        rw [restored]
        split
        · rename_i inside
          have file := Build.mem_files_iff.1 inside
          rw [same.file? (Build.isProper file).1, (history.file?_of_tree complete file).1]
        · rename_i outside
          rw [Build.mem_files_iff, not_not] at outside
          rw [overlaid, if_pos outside]
      refine ⟨later, b, older, rfl, complete, failed', rfl, result, ?_⟩
      rw [← overlaid_eq_tree_iff]
      exact forall_congr' fun rel => by rw [result]
  · intro b last
    obtain ⟨complete, later, older, rfl, failed⟩ := List.find?_eq_some_iff_append.1 last
    have listed := history.listed complete (fun c inside => by simpa using failed c inside) here valid same
    constructor
    · rintro ⟨p, v, ended⟩
      obtain ⟨⟨good, make, near⟩, _⟩ := listed.of_download flat absent ended
      exact ⟨good, make, fun rel file => near rel (Build.mem_files_iff.2 file)⟩
    · rintro ⟨good, make, near⟩
      obtain ⟨v, ended, _⟩ := listed.download_ok good make fun rel inside =>
        near rel (Build.mem_files_iff.1 inside)
      exact ⟨copy, v, ended⟩

end

section Sample

-- Two folders with files of the same names, and a store that refuses one of the files.
def rebuiltDisk : Disk :=
  (((((Disk.empty.put ["one"] .folder).put ["one", "a.txt"] (.file (Text.encode "1"))).put ["one", "b.txt"]
    (.file (Text.encode "1"))).put ["two"] .folder).put ["two", "a.txt"] (.file (Text.encode "2"))).put ["two", "b.txt"]
      (.file (Text.encode "2"))

def rebuiltWorkspace : Workspace := ⟨rebuiltDisk, [], [], [], [], 0⟩

def rebuiltRemote : Remote :=
  ⟨(FolderStore.store ["s"]).refusing fun key => key = ObjectKey.join [sampleEntry "", "b.txt"], ""⟩

theorem one_valid : entryKey (sampleRemote "") sampleKey = .ok (sampleEntry "") := rfl

theorem two_valid : entryKey rebuiltRemote sampleKey = .ok (sampleEntry "") := rfl

theorem one_listed : rebuiltDisk.listFilesRecursive ["one"] = .ok ["a.txt", "b.txt"] := by
  refine Disk.listFilesRecursive_ok_iff.2 ⟨rfl, ?_⟩
  have walked : (rebuiltDisk.walk (rebuiltDisk.entries.length + 1) ["one"]).map (Path.relativeText ["one"]) =
      ["a.txt", "b.txt"] := by decide +kernel
  exact (congrArg Text.sorted walked).trans (List.mergeSort_of_pairwise (by decide +kernel))

theorem two_listed : rebuiltDisk.listFilesRecursive ["two"] = .ok ["a.txt", "b.txt"] := by
  refine Disk.listFilesRecursive_ok_iff.2 ⟨rfl, ?_⟩
  have walked : (rebuiltDisk.walk (rebuiltDisk.entries.length + 1) ["two"]).map (Path.relativeText ["two"]) =
      ["a.txt", "b.txt"] := by decide +kernel
  exact (congrArg Text.sorted walked).trans (List.mergeSort_of_pairwise (by decide +kernel))

theorem one_setting :
    Setting (sampleRemote "") ["s"] sampleHome ["one"] (sampleEntry "") ["a.txt", "b.txt"] rebuiltWorkspace :=
  setting_of_listed (.inl rfl) one_listed rfl (by decide) (by decide)

-- The first upload, which is refused nothing.
theorem first_build : ∃ (b : Build ["s"] sampleHome sampleKey (sampleEntry "")) (x : CacheUpload),
    upload (sampleRemote "") ⟨false, none⟩ sampleKey ["one"] rebuiltWorkspace = .ok x b.run.world ∧
      b.run.outcome = some (.ok x) ∧ b.folder = ["one"] ∧ b.world = rebuiltWorkspace := by
  have fits : ∀ rel ∈ [Manifest.fileName] :: ["a.txt", "b.txt"].map Path.segments,
      (∀ name ∈ sampleHome ++ rel, Path.isName name = true) ∧ Path.isFarTooLong (sampleHome ++ rel) = false := by
    decide +kernel
  obtain ⟨x, v, ran⟩ := one_setting.upload_ok rfl ⟨false, none⟩ one_valid sample_good
    fun rel inside => isWritable_sample rfl (fits rel inside)
  obtain ⟨u, r, steps, outcome, run⟩ := Filling.upload_reaches one_valid sample_good one_setting.listed
  rw [Job.outcome_ok ran] at run
  cases run
  exact ⟨⟨sampleRemote "", ["one"], ["a.txt", "b.txt"], rebuiltWorkspace, u, one_valid, one_setting, steps⟩, x,
    ran, outcome, rfl, rfl⟩

-- Outside the store the first upload changes nothing.
theorem find?_of_first {b : Build ["s"] sampleHome sampleKey (sampleEntry "")} (world : b.world = rebuiltWorkspace)
    {name : String} (other : name ≠ "s") (rel : Path) :
    b.run.world.disk.find? (name :: rel) = rebuiltDisk.find? (name :: rel) := by
  rw [b.sound.filled.beside (name :: rel), world]
  · rfl
  · rintro ⟨rest, _, same⟩
    exact other (List.cons.inj same).1
  · rintro ⟨rest, same⟩
    exact other (List.cons.inj same).1

theorem two_setting {b : Build ["s"] sampleHome sampleKey (sampleEntry "")} (world : b.world = rebuiltWorkspace) :
    Setting rebuiltRemote ["s"] sampleHome ["two"] (sampleEntry "") ["a.txt", "b.txt"] b.run.world := by
  have same (rel : Path) : b.run.world.disk.find? (["two"] ++ rel) = rebuiltDisk.find? (["two"] ++ rel) :=
    find?_of_first world (by decide) rel
  have there : b.run.world.disk.find? (Path.bare ["two"]) = some .folder := (same []).trans rfl
  have listed := Disk.listFilesRecursive_congr two_listed there fun rel => Disk.file?_congr (same rel)
  exact setting_of_listed (.inr ⟨_, rfl⟩) listed ((same [Manifest.fileName]).trans rfl) (by decide) (by decide)

-- The second upload replaces one file and is refused the other.
theorem second_build {b : Build ["s"] sampleHome sampleKey (sampleEntry "")} (world : b.world = rebuiltWorkspace)
    (complete : b.isComplete = true) (tree : ∀ rel, b.tree rel = rebuiltDisk.file? (["one"] ++ rel)) :
    ∃ (b' : Build ["s"] sampleHome sampleKey (sampleEntry "")) (e : Failure),
      upload rebuiltRemote ⟨true, none⟩ sampleKey ["two"] b.run.world = .error e b'.run.world ∧
        b'.run.outcome = some (.error e) ∧ b'.run.puts = [⟨"a.txt", true⟩, ⟨"b.txt", false⟩] ∧
          b'.folder = ["two"] ∧ b'.world = b.run.world := by
  have set := two_setting world
  have writable : b.run.world.disk.IsWritable (sampleHome ++ ["a.txt"]) := by
    have inside : ["a.txt"] ∈ b.files.map Path.segments := Build.mem_files_iff.2 (by rw [tree]; decide)
    have object := b.sound.file?_of_manifest b.setting (Build.isComplete_iff_stored.1 complete) inside
    have file : b.run.world.disk.file? (sampleHome ++ ["a.txt"]) = some (Text.encode "1") := object.trans (tree ["a.txt"])
    exact Disk.isWritable_of_file (Disk.file?_eq_some_iff.1 file) (by decide)
  have source : b.run.world.disk.find? ["two", "a.txt"] = some (.file (Text.encode "2")) :=
    (find?_of_first world (by decide) ["a.txt"]).trans rfl
  obtain ⟨v, stored⟩ : ∃ v, rebuiltRemote.store.putFile (ObjectKey.join [sampleEntry "", "a.txt"])
      (target ["two"] "a.txt") none b.run.world = .ok () v := by
    have proper : Path.IsProper ["a.txt"] := ⟨by simp, by decide⟩
    have placed := set.placed_join proper
    rw [Text.joined_singleton] at placed
    obtain ⟨v, put, _⟩ := FolderStore.putFile_ok (w := b.run.world.noting (.attempt _)) set.plain placed writable source
      (by simp [sampleHome]) none
    exact ⟨v, (FolderStore.putFile_refusing _ _ _ _ _ _).trans ((if_neg (by decide +kernel)).trans put)⟩
  obtain ⟨e, v', refused⟩ : ∃ e v', rebuiltRemote.store.putFile (ObjectKey.join [sampleEntry "", "b.txt"])
      (target ["two"] "b.txt") none v = .error e v' :=
    ⟨_, _, (FolderStore.putFile_refusing _ _ _ _ _ _).trans (if_pos (by decide +kernel))⟩
  let notice : Event := .notice ⟨.error, "캐시 파일 업로드 실패",
    [("key", .string (ObjectKey.join [sampleEntry "", "b.txt"])), ("error", .string e.message)]⟩
  let failed : List (String × Failure) := [(ObjectKey.join [sampleEntry "", "b.txt"], e)]
  let puts : List Put := [⟨"a.txt", true⟩, ⟨"b.txt", false⟩]
  have made : putAll rebuiltRemote (sampleEntry "") ["two"] ["a.txt", "b.txt"] b.run.world =
      .ok failed (v'.noting notice) :=
    (Filling.putAll_stored stored _).trans (Filling.putAll_refused refused rfl)
  have ended := Filling.upload_error ⟨true, none⟩ two_valid sample_good set.listed made
    (List.cons_ne_nil _ _)
  have first : Filling.Step rebuiltRemote sampleKey (sampleEntry "") ["two"] ["a.txt", "b.txt"]
      (Filling.start ["a.txt", "b.txt"] b.run.world) ⟨["b.txt"], [⟨"a.txt", true⟩], [], none, v⟩ :=
    .stored (u := Filling.start ["a.txt", "b.txt"] b.run.world) List.mem_cons_self stored
  have second : Filling.Step rebuiltRemote sampleKey (sampleEntry "") ["two"] ["a.txt", "b.txt"]
      ⟨["b.txt"], [⟨"a.txt", true⟩], [], none, v⟩ ⟨[], puts, failed, none, v'.noting notice⟩ :=
    .refused (u := ⟨["b.txt"], [⟨"a.txt", true⟩], [], none, v⟩) List.mem_cons_self refused
  have third := @Filling.Step.finish rebuiltRemote sampleKey (sampleEntry "") ["two"] ["a.txt", "b.txt"]
    ⟨[], puts, failed, none, v'.noting notice⟩ _ _ rfl rfl (finish_of_failed (List.cons_ne_nil _ _) _)
  exact ⟨⟨rebuiltRemote, ["two"], ["a.txt", "b.txt"], b.run.world, _, two_valid, set,
    ((Relation.ReflTransGen.single first).tail second).tail third⟩, _, ended, rfl, rfl, rfl, rfl⟩

-- The two uploads, and what they leave.
structure IsRebuilt (b b' : Build ["s"] sampleHome sampleKey (sampleEntry "")) : Prop where
  first : ∃ x, upload (sampleRemote "") ⟨false, none⟩ sampleKey ["one"] rebuiltWorkspace = .ok x b.run.world
  second : ∃ e, upload rebuiltRemote ⟨true, none⟩ sampleKey ["two"] b.run.world = .error e b'.run.world
  complete : b.isComplete = true
  failed : b'.isComplete = false
  tree : ∀ rel, b.tree rel = rebuiltDisk.file? (["one"] ++ rel)
  tree' : ∀ rel, b'.tree rel = rebuiltDisk.file? (["two"] ++ rel)
  puts : b'.run.puts = [⟨"a.txt", true⟩, ⟨"b.txt", false⟩]
  history : History ["s"] sampleHome sampleKey (sampleEntry "") [b', b] b'.run.world.disk
  absent : b'.run.world.disk.find? ["out"] = none

theorem exists_isRebuilt : ∃ b b', IsRebuilt b b' := by
  obtain ⟨b, x, first, outcome, folder, world⟩ := first_build
  have complete : b.isComplete = true := Build.isComplete_iff.2 ⟨x, outcome⟩
  have tree (rel : Path) : b.tree rel = rebuiltDisk.file? (["one"] ++ rel) := by
    rw [Build.tree, folder, world]
    rfl
  obtain ⟨b', e, second, outcome', puts, folder', world'⟩ := second_build world complete tree
  have failed : b'.isComplete = false := by
    rw [← Bool.not_eq_true, Build.isComplete_iff, outcome']
    rintro ⟨y, same⟩
    cases same
  have tree' (rel : Path) : b'.tree rel = rebuiltDisk.file? (["two"] ++ rel) := by
    rw [Build.tree, folder', world']
    exact Disk.file?_congr (find?_of_first world (by decide) rel)
  have fresh : b.world.disk.find? (sampleHome ++ [Manifest.fileName]) = none := by
    rw [world]
    rfl
  have history := ((History.start fresh).next b fun _ _ => rfl).next b' fun _ _ => by rw [world']
  have absent : b'.run.world.disk.find? ["out"] = none := by
    have kept := b'.sound.filled.beside ["out"] (by rintro ⟨rel, _, same⟩; simp [sampleHome] at same) (by decide)
    rw [kept, world', find?_of_first world (by decide) []]
    rfl
  exact ⟨b, b', ⟨x, first⟩, ⟨e, second⟩, complete, failed, tree, tree', puts, history, absent⟩

theorem rebuilt_near {rel : Path} (file : rebuiltDisk.file? (["one"] ++ rel) ≠ none) :
    Path.isFarTooLong (["out"] ++ rel) = false := by
  have short : ∀ rel ∈ ["a.txt", "b.txt"].map Path.segments, Path.isFarTooLong (["out"] ++ rel) = false := by decide
  exact short rel ((mem_map_segments one_listed).2 file)

theorem IsRebuilt.overlaid_eq {b b' : Build ["s"] sampleHome sampleKey (sampleEntry "")} (h : IsRebuilt b b') :
    overlaid b [b'] ["a.txt"] = some (Text.encode "2") ∧ overlaid b [b'] ["b.txt"] = some (Text.encode "1") := by
  have file : b.tree ["a.txt"] ≠ none ∧ b.tree ["b.txt"] ≠ none := by
    rw [h.tree, h.tree]
    decide
  have stored : b'.hasStored ["a.txt"] = true ∧ b'.hasStored ["b.txt"] = false := by
    rw [Build.hasStored, Build.hasStored, h.puts]
    decide
  constructor
  · rw [overlaid, if_neg file.1, List.find?_cons, stored.1]
    exact (h.tree' ["a.txt"]).trans rfl
  · rw [overlaid, if_neg file.2, List.find?_cons, stored.2]
    exact (h.tree ["b.txt"]).trans rfl

/-- After an upload and a second one that is refused one of its files, a download mixes the two: it gives one file
of the second upload and one of the first. -/
theorem mixed_download : ∃ x v e v' p v'',
    upload (sampleRemote "") ⟨false, none⟩ sampleKey ["one"] rebuiltWorkspace = .ok x v ∧
      upload rebuiltRemote ⟨true, none⟩ sampleKey ["two"] v = .error e v' ∧
      download (sampleRemote "") ⟨false, none⟩ sampleKey ["out"] v' = .ok p v'' ∧
      v''.disk.file? ["out", "a.txt"] = some (Text.encode "2") ∧
      v''.disk.file? ["out", "b.txt"] = some (Text.encode "1") := by
  obtain ⟨b, b', rebuilt⟩ := exists_isRebuilt
  obtain ⟨⟨x, first⟩, ⟨e, second⟩⟩ := And.intro rebuilt.first rebuilt.second
  have history : History ["s"] sampleHome sampleKey (sampleEntry "") ([b'] ++ b :: []) b'.run.world.disk :=
    rebuilt.history
  have here : FolderStore.IsAt (sampleRemote "").store ["s"] := .inl rfl
  have listed := history.listed rebuilt.complete (by simp [rebuilt.failed]) here one_valid (fun _ _ => rfl)
  obtain ⟨v'', downloaded, restored⟩ := listed.download_ok sample_good (canMake_out rebuilt.absent) fun rel inside =>
    rebuilt_near (rebuilt.tree rel ▸ Build.mem_files_iff.1 inside)
  have result (rel : Path) (file : b.tree rel ≠ none) : v''.disk.file? (["out"] ++ rel) = overlaid b [b'] rel := by
    rw [← (history.file?_of_tree rebuilt.complete file).1]
    exact (restored rel).trans (if_pos (Build.mem_files_iff.2 file))
  obtain ⟨new, old⟩ := rebuilt.overlaid_eq
  refine ⟨x, _, e, _, _, v'', first, second, downloaded, ?_, ?_⟩
  · exact (result ["a.txt"] (by rw [rebuilt.tree]; decide)).trans new
  · exact (result ["b.txt"] (by rw [rebuilt.tree]; decide)).trans old

theorem download_after_refused_upload : ∃ b b', IsRebuilt b b' ∧ ∃ p v,
    download (sampleRemote "") ⟨false, none⟩ sampleKey ["out"] b'.run.world = .ok p v ∧
      (∀ rel, v.disk.file? (["out"] ++ rel) = overlaid b [b'] rel) ∧
      ¬∀ rel, v.disk.file? (["out"] ++ rel) = b.tree rel := by
  obtain ⟨b, b', rebuilt⟩ := exists_isRebuilt
  have flat : Path.IsPlain (Path.bare ["out"]) := by
    change ∀ name ∈ ["out"], _
    decide
  have here : FolderStore.IsAt (sampleRemote "").store ["s"] := .inl rfl
  obtain ⟨found, success, _⟩ :=
    download_after_uploads ⟨false, none⟩ rebuilt.history here one_setting.plain rfl one_valid (fun _ _ => rfl) flat
      rebuilt.absent
  have last : [b', b].find? Build.isComplete = some b := by
    rw [List.find?_cons, rebuilt.failed, List.find?_cons, rebuilt.complete]
  obtain ⟨p, v, downloaded⟩ := (success b last).2 ⟨sample_good, canMake_out rebuilt.absent,
    fun rel file => rebuilt_near (rebuilt.tree rel ▸ file)⟩
  obtain ⟨later, c, older, split, complete, failed, _, mixed, same⟩ := found p v downloaded
  have parts : later = [b'] ∧ c = b := by
    rcases later with _ | ⟨d, _ | ⟨d', rest⟩⟩
    · obtain rfl := (List.cons.inj split).1
      rw [rebuilt.failed] at complete
      cases complete
    · cases split
      exact ⟨rfl, rfl⟩
    · simp at split
  rw [parts.1, parts.2] at mixed
  refine ⟨b, b', rebuilt, p, v, downloaded, mixed, fun whole => ?_⟩
  obtain ⟨new, _⟩ := rebuilt.overlaid_eq
  have equal := (mixed ["a.txt"]).symm.trans (whole ["a.txt"])
  rw [new, rebuilt.tree] at equal
  revert equal
  decide

end Sample

end Wheelhouse.Cache
