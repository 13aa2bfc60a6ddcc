import Wheelhouse.Proofs.Cache.Download
import Wheelhouse.Proofs.Cache.Success

/-!
A fresh entry of the cache is complete or counts for nothing. While files are being put there is no
manifest; when one of the puts is refused there never is; and when the upload ends well, a download gives
back the folder as it was.
-/

set_option autoImplicit false

namespace Wheelhouse.Cache

-- Two disks that have the same in an entry.
def SameEntry (home : Path) (d d' : Disk) : Prop := ∀ q, home.IsBelow q → d'.find? q = d.find? q

section

variable {remote : Remote} {root home folder : Path} {key entry : String} {files : List String}
  {w : Workspace}

theorem SameEntry.file? {d d' : Disk} (same : SameEntry home d d') {rel : Path} (filled : rel ≠ []) :
    d'.file? (home ++ rel) = d.file? (home ++ rel) := by
  rw [Disk.file?, same _ ⟨rel, filled, rfl⟩, Disk.file?]

namespace Setting

theorem isWhole (set : Setting remote root home folder entry files w) :
    ∀ f ∈ files, Text.IsWhole f.toList := by
  intro f listed
  obtain ⟨rel, contents, proper, rfl, found⟩ := set.mem_files listed
  refine Text.isWhole_joined fun name inside => set.source.texts rel ?_ name inside
  rw [Disk.file?_eq_some_iff.2 found]
  simp

theorem readFiles_text (set : Setting remote root home folder entry files w)
    (valid : entryKey remote key = .ok entry) {stamp : String} (created : Text.IsWhole stamp.toList)
    (place : String) : Manifest.readFiles place (Manifest.text ⟨key, files, stamp⟩) = .ok files := by
  have isKey : CacheKey.isKey key = true := by
    unfold entryKey at valid
    split at valid
    · assumption
    · cases valid
  have whole := CacheKey.isWhole_of_isKey isKey
  exact Manifest.readFiles_text (m := ⟨key, files, stamp⟩) whole set.isWhole created place

-- The manifest of an upload and the objects that it lists make an entry that can be downloaded.
theorem listed_entry (set : Setting remote root home folder entry files w) (valid : entryKey remote key = .ok entry)
    {d : Disk} {ms : Int} (manifest : d.file? (home ++ [Manifest.fileName]) =
      some (Text.encode (Manifest.text ⟨key, files, Calendar.stamp ms⟩)))
    (object : ∀ rel ∈ files.map Path.segments, d.file? (home ++ rel) ≠ none) :
    Listed remote root home key entry d (files.map Path.segments) := by
  have nodup : (files.map Path.segments).Nodup := by
    apply List.Nodup.of_map (Text.joined "/")
    rw [set.joined_segments]
    exact Disk.nodup_listFilesRecursive set.listed
  have created := (Calendar.isSingle_stamp ms).isWhole
  generalize Calendar.stamp ms = stamp at manifest created
  refine ⟨⟨set.here, set.plain, set.placed, fun rel inside => set.isProper inside, fun rel inside => ?_, nodup⟩,
    valid, _, Disk.file?_eq_some_iff.1 manifest, ?_⟩
  · obtain ⟨contents, there⟩ := Option.ne_none_iff_exists'.1 (object rel inside)
    exact ⟨contents, Disk.file?_eq_some_iff.1 there⟩
  · rw [Text.decode_encode, set.joined_segments]
    exact set.readFiles_text valid created _

theorem placed_manifest (set : Setting remote root home folder entry files w) :
    FolderStore.place root (manifestKey entry) = .ok (home ++ [Manifest.fileName]) := by
  have joined := set.placed_join isProper_fileName
  rwa [Text.joined_singleton] at joined

-- The manifest counts: without it a check finds nothing.
theorem check_eq (set : Setting remote root home folder entry files w) (valid : entryKey remote key = .ok entry)
    {options : CacheOptions} (asked : options.forceRebuild = false) (v : Workspace) :
    ∃ v', check remote options key v = .ok (v.disk.find? (home ++ [Manifest.fileName])).isSome v' := by
  have found := FolderStore.contains_eq set.here set.plain set.placed_manifest v
  unfold check
  rw [Job.bind_ok (Job.ofExcept_ok_iff.2 ⟨valid, rfl⟩), if_neg (by simp [asked]),
    Job.bind_ok found]
  exact ⟨_, rfl⟩

end Setting

namespace Filling

theorem stored_iff {u : Filling} {r : Except Failure CacheUpload}
    (set : Setting remote root home folder entry files w) (ending : Ending entry files u.puts r) :
    ⟨Manifest.fileName, true⟩ ∈ u.puts ↔ ∃ x, r = .ok x := by
  generalize u.puts = puts at ending
  have file {puts : List Put} (all : (puts.map Put.name).Perm files) (b : Bool) :
      ⟨Manifest.fileName, b⟩ ∉ puts :=
    fun inside => set.fileName_not_mem (all.subset (List.mem_map_of_mem inside))
  cases ending with
  | refused all _ => simp [file all true]
  | unlisted all _ => simp [file all true]
  | complete all _ => simp

-- The manifest is there only when every file has been stored.
theorem Sound.stored_of_manifest {u : Filling} (h : u.Sound home folder key entry files w)
    (set : Setting remote root home folder entry files w) (manifest : ⟨Manifest.fileName, true⟩ ∈ u.puts) :
    (∃ x, u.outcome = some (.ok x)) ∧ ∀ f ∈ files, ⟨f, true⟩ ∈ u.puts := by
  cases outcome : u.outcome with
  | none =>
    have all := (h.pending outcome).2
    exact absurd (all.subset (List.mem_append_right _ (List.mem_map_of_mem manifest))) set.fileName_not_mem
  | some r =>
    have ending := (h.ended r outcome).2
    obtain ⟨x, rfl⟩ := (stored_iff set ending).1 manifest
    refine ⟨⟨x, rfl⟩, fun f listed => ?_⟩
    generalize u.puts = puts at ending
    cases ending with
    | complete all stored =>
      obtain ⟨⟨name, b⟩, inside, rfl⟩ := List.mem_map.1 (all.symm.subset listed)
      have taken : b = true := stored _ inside
      exact List.mem_append_left _ (taken ▸ inside)

-- What is stored of the folder is what the folder held when the upload began.
theorem Sound.file?_of_manifest {u : Filling} (h : u.Sound home folder key entry files w)
    (set : Setting remote root home folder entry files w) (manifest : ⟨Manifest.fileName, true⟩ ∈ u.puts)
    {rel : Path} (inside : rel ∈ files.map Path.segments) :
    u.world.disk.file? (home ++ rel) = w.disk.file? (folder.bare ++ rel) := by
  have listed := set.joined_mem inside
  refine h.filled.stored rel (set.isProper inside) ?_ ((h.stored_of_manifest set manifest).2 _ listed)
  rintro rfl
  exact set.fileName_not_mem (Text.joined_singleton "/" Manifest.fileName ▸ listed)

-- After an upload that ends well the entry can be downloaded, as long as nothing changes in it.
theorem Sound.listed_entry {u : Filling} (h : u.Sound home folder key entry files w)
    (set : Setting remote root home folder entry files w) (valid : entryKey remote key = .ok entry)
    {x : CacheUpload} (outcome : u.outcome = some (.ok x)) {d : Disk} (same : SameEntry home u.world.disk d) :
    Listed remote root home key entry d (files.map Path.segments) ∧
      ∀ rel ∈ files.map Path.segments, d.file? (home ++ rel) = w.disk.file? (folder.bare ++ rel) := by
  have manifest := (stored_iff set (h.ended _ outcome).2).2 ⟨x, rfl⟩
  have object (rel : Path) (inside : rel ∈ files.map Path.segments) :
      d.file? (home ++ rel) = w.disk.file? (folder.bare ++ rel) := by
    rw [same.file? (set.isProper inside).1, h.file?_of_manifest set manifest inside]
  obtain ⟨ms, text⟩ := h.filled.manifest manifest
  rw [← same.file? (by simp)] at text
  refine ⟨set.listed_entry valid text fun rel inside => ?_, object⟩
  rw [object rel inside]
  exact set.mem_iff.1 inside

end Filling

end

/-- An upload to an entry that holds nothing yet, with any of its puts refused and its files put in any
order. At every moment an entry with a manifest holds every file of the folder. The upload fails exactly
when a put has been refused, tells which, and then the entry is not found. After an upload that does not
fail, a download into a folder that is not there succeeds if the folder can be made and no path in it is
too long, and then the folder holds the files of the first one and no others. -/
theorem fresh_entry_complete_or_missing {remote : Remote} {root home folder : Path} {key entry : String}
    {files : List String} {w : Workspace} (valid : entryKey remote key = .ok entry)
    (set : Setting remote root home folder entry files w)
    (fresh : ∀ q, home.IsBelow q → w.disk.find? q = none) :
    (∀ u, (Filling.start files w).Reaches remote key entry folder files u →
      (remote.store.contains (manifestKey entry) u.world = .ok true u.world →
        ∀ rel contents, w.disk.file? (folder.bare ++ rel) = some contents →
          u.world.disk.file? (home ++ rel) = some contents) ∧
      (∀ r, u.outcome = some r → Ending entry files u.puts r ∧
        ((∃ e, r = .error e) ↔ ∃ put ∈ u.puts, put.stored = false)) ∧
      (∀ e, u.outcome = some (.error e) →
        (∃ cause, e = .publication (Text.sorted (refusedKeys entry u.puts)) [] [entry] cause) ∧
        ∀ v options, SameEntry home u.world.disk v.disk → options.forceRebuild = false →
          ∃ v', check remote options key v = .ok false v') ∧
      (∀ x, u.outcome = some (.ok x) → ∀ v options copy, SameEntry home u.world.disk v.disk →
        copy.bare.IsPlain → v.disk.find? copy.bare = none →
          ((∃ p v', download remote options key copy v = .ok p v') ↔
            Workers.check (workers options) = .ok () ∧ CanMake v.disk copy ∧
              ∀ rel, w.disk.file? (folder.bare ++ rel) ≠ none → Path.isFarTooLong (copy.bare ++ rel) = false) ∧
          ∀ p v', download remote options key copy v = .ok p v' →
            p = copy ∧ ∀ rel, v'.disk.file? (copy.bare ++ rel) = w.disk.file? (folder.bare ++ rel))) ∧
    ∀ options, Workers.check (workers options) = .ok () →
      ∃ u r, (Filling.start files w).Reaches remote key entry folder files u ∧ u.outcome = some r ∧
        Job.outcome (upload remote options key folder) w = .ok r u.world := by
  refine ⟨fun u steps => ?_, fun options good => Filling.upload_reaches valid good set.listed⟩
  have sound := (Filling.start_sound home folder key entry files w).reaches set steps
  have missing (unlisted : ⟨Manifest.fileName, true⟩ ∉ u.puts) :
      u.world.disk.find? (home ++ [Manifest.fileName]) = none := by
    rw [sound.filled.unlisted unlisted]
    exact fresh _ ⟨_, by simp, rfl⟩
  refine ⟨fun found rel contents there => ?_, fun r outcome => ?_, fun e outcome => ?_,
    fun x outcome v options copy same plain absent => ?_⟩
  · have manifest : ⟨Manifest.fileName, true⟩ ∈ u.puts := by
      by_contra unlisted
      rw [FolderStore.contains_eq set.here set.plain set.placed_manifest, missing unlisted] at found
      cases found
    rw [sound.file?_of_manifest set manifest (set.mem_iff.2 (by rw [there]; simp)), there]
  · have ending := (sound.ended r outcome).2
    exact ⟨ending, ending.error_iff⟩
  · have ending := (sound.ended _ outcome).2
    refine ⟨ending.failure, fun v options same asked => ?_⟩
    have unlisted : ⟨Manifest.fileName, true⟩ ∉ u.puts := by
      rw [Filling.stored_iff set ending]
      rintro ⟨x, h⟩
      cases h
    obtain ⟨v', checked⟩ := set.check_eq valid asked v
    rw [same _ ⟨_, by simp, rfl⟩, missing unlisted] at checked
    exact ⟨v', checked⟩
  · obtain ⟨listed, object⟩ := sound.listed_entry set valid outcome same
    have short : (∀ rel ∈ files.map Path.segments, Path.isFarTooLong (copy.bare ++ rel) = false) ↔
        ∀ rel, w.disk.file? (folder.bare ++ rel) ≠ none → Path.isFarTooLong (copy.bare ++ rel) = false :=
      forall_congr' fun rel => by rw [set.mem_iff]
    refine ⟨⟨?_, ?_⟩, ?_⟩
    · rintro ⟨p, v', ended⟩
      obtain ⟨⟨good, make, near⟩, _⟩ := listed.of_download plain absent ended
      exact ⟨good, make, short.1 near⟩
    · rintro ⟨good, make, near⟩
      obtain ⟨v', ended, _⟩ := listed.download_ok good make (short.2 near)
      exact ⟨copy, v', ended⟩
    · intro p v' ended
      obtain ⟨_, same, restored⟩ := listed.of_download plain absent ended
      refine ⟨same, fun rel => ?_⟩
      rw [restored]
      split
      · rename_i inside
        exact object rel inside
      · rename_i outside
        rw [set.mem_iff, not_not] at outside
        exact outside.symm

section Sample

-- A folder with one file, and one with a file in an inner folder.
def sampleDisk : Disk := (Disk.empty.put ["t"] .folder).put ["t", "a"] (.file (Text.encode "1"))

def nestedDisk : Disk := (sampleDisk.put ["t", "d"] .folder).put ["t", "d", "b"] (.file (Text.encode "2"))

def sampleWorkspace : Workspace := ⟨sampleDisk, [], [], [], [], 0⟩

def nestedWorkspace : Workspace := ⟨nestedDisk, [], [], [], [], 0⟩

def sampleKey : String := "0123456789abcdef-0123456789abcdef"

def sampleRemote (scope : String) : Remote := ⟨FolderStore.store ["s"], scope⟩

def sampleEntry (scope : String) : String := ObjectKey.join [scope, "cache", sampleKey]

def sampleHome : Path := ["s", "cache", sampleKey]

theorem fresh_of_absent {d : Disk} {home : Path} (absent : d.find? home = none) :
    ∀ q, home.IsBelow q → d.find? q = none := by
  rintro q ⟨rel, _, rfl⟩
  exact Disk.find?_eq_none_below absent (List.prefix_append home rel)

theorem sample_listed : sampleDisk.listFilesRecursive ["t"] = .ok ["a"] := by
  refine Disk.listFilesRecursive_ok_iff.2 ⟨rfl, ?_⟩
  have walked : (sampleDisk.walk (sampleDisk.entries.length + 1) ["t"]).map (Path.relativeText ["t"]) =
      ["a"] := by decide
  change Text.sorted ((sampleDisk.walk (sampleDisk.entries.length + 1) ["t"]).map _) = _
  rw [walked]
  simp [Text.sorted]

theorem nested_listed : nestedDisk.listFilesRecursive ["t"] = .ok ["a", "d/b"] := by
  refine Disk.listFilesRecursive_ok_iff.2 ⟨rfl, ?_⟩
  have walked : (nestedDisk.walk (nestedDisk.entries.length + 1) ["t"]).map (Path.relativeText ["t"]) =
      ["a", "d/b"] := by decide
  change Text.sorted ((nestedDisk.walk (nestedDisk.entries.length + 1) ["t"]).map _) = _
  rw [walked]
  exact List.mergeSort_of_pairwise (by decide +kernel)

-- What is asked of an upload to the store of the samples.
theorem setting_of_listed {remote : Remote} {folder : Path} {files : List String} {w : Workspace}
    (here : FolderStore.IsAt remote.store ["s"]) (listed : w.disk.listFilesRecursive folder = .ok files)
    (unnamed : w.disk.find? (folder.bare ++ [Manifest.fileName]) = none)
    (texts : ∀ rel ∈ files.map Path.segments, ∀ name ∈ rel, Text.IsSingle name)
    (apart : ∀ rel ∈ files.map Path.segments, ¬sampleHome <+: folder.bare ++ rel) :
    Setting remote ["s"] sampleHome folder (sampleEntry "") files w where
  here := here
  plain := by
    change ∀ name ∈ ["s"], _
    decide
  placed := rfl
  listed := listed
  source := by
    refine .of_listed listed unnamed (fun rel inside name member => (texts rel inside name member).isWhole) ?_
    rintro rel inside ⟨rest, _, same⟩
    exact apart rel inside ⟨rest, same.symm⟩

theorem sample_setting :
    Setting (sampleRemote "") ["s"] sampleHome ["t"] (sampleEntry "") ["a"] sampleWorkspace :=
  setting_of_listed (.inl rfl) sample_listed rfl (by decide) (by decide)

theorem nested_setting :
    Setting (sampleRemote "") ["s"] sampleHome ["t"] (sampleEntry "") ["a", "d/b"] nestedWorkspace :=
  setting_of_listed (.inl rfl) nested_listed rfl (by decide) (by decide)

theorem sample_good : Workers.check (workers ⟨false, none⟩) = .ok () :=
  if_pos (show Workers.isGood (Number.ofNat 8) = true by decide +kernel)

theorem canMake_out {d : Disk} (absent : d.find? ["out"] = none) : CanMake d ["out"] where
  absent := absent
  named := by decide
  clear := by
    intro q before
    rcases List.prefix_cons_iff.1 before with rfl | ⟨rest, rfl, below⟩
    · rfl
    · rw [List.prefix_nil.1 below, Disk.file?, absent]
  near := by decide

-- In a store that is not there yet any place of the entry can be written.
theorem isWritable_sample {d : Disk} (absent : d.find? ["s"] = none) {rel : Path}
    (fits : (∀ name ∈ sampleHome ++ rel, Path.isName name = true) ∧ Path.isFarTooLong (sampleHome ++ rel) = false) :
    d.IsWritable (sampleHome ++ rel) := by
  refine Disk.isWritable_of_absent (p := ["s"]) absent ?_ (["cache", sampleKey] ++ rel) (by simp) fits.1 fits.2
  intro q before
  rcases List.prefix_cons_iff.1 before with rfl | ⟨rest, rfl, below⟩
  · rfl
  · rw [List.prefix_nil.1 below, Disk.file?, absent]

theorem sample_uploaded : ∃ x v, upload (sampleRemote "") ⟨false, none⟩ sampleKey ["t"] sampleWorkspace = .ok x v := by
  have fits : ∀ rel ∈ [Manifest.fileName] :: ["a"].map Path.segments,
      (∀ name ∈ sampleHome ++ rel, Path.isName name = true) ∧ Path.isFarTooLong (sampleHome ++ rel) = false := by
    decide +kernel
  exact sample_setting.upload_ok rfl _ rfl sample_good fun rel inside => isWritable_sample rfl (fits rel inside)

theorem nested_uploaded : ∃ x v, upload (sampleRemote "") ⟨false, none⟩ sampleKey ["t"] nestedWorkspace = .ok x v := by
  have fits : ∀ rel ∈ [Manifest.fileName] :: ["a", "d/b"].map Path.segments,
      (∀ name ∈ sampleHome ++ rel, Path.isName name = true) ∧ Path.isFarTooLong (sampleHome ++ rel) = false := by
    decide +kernel
  exact nested_setting.upload_ok rfl _ rfl sample_good fun rel inside => isWritable_sample rfl (fits rel inside)

/-- An upload of two files, one of them in an inner folder, and a download that gives them back. -/
theorem fresh_entry_of_nested_files : ∃ u x,
    (Filling.start ["a", "d/b"] nestedWorkspace).Reaches (sampleRemote "") sampleKey (sampleEntry "") ["t"]
        ["a", "d/b"] u ∧ u.outcome = some (.ok x) ∧
      upload (sampleRemote "") ⟨false, none⟩ sampleKey ["t"] nestedWorkspace = .ok x u.world ∧
      ∃ p v, download (sampleRemote "") ⟨false, none⟩ sampleKey ["out"] u.world = .ok p v ∧
        ∀ rel, v.disk.file? (["out"] ++ rel) = nestedDisk.file? (["t"] ++ rel) := by
  have valid : entryKey (sampleRemote "") sampleKey = .ok (sampleEntry "") := rfl
  obtain ⟨always, ends⟩ := fresh_entry_complete_or_missing valid nested_setting (fresh_of_absent rfl)
  obtain ⟨u, r, steps, outcome, run⟩ := ends ⟨false, none⟩ sample_good
  obtain ⟨x, v, ran⟩ := nested_uploaded
  rw [Job.outcome_ok ran] at run
  cases run
  have absent : u.world.disk.find? ["out"] = none := by
    have sound := (Filling.start_sound sampleHome ["t"] sampleKey (sampleEntry "") ["a", "d/b"] nestedWorkspace).reaches
      nested_setting steps
    rw [sound.filled.beside ["out"] (by rintro ⟨rel, _, same⟩; simp [sampleHome] at same) (by decide)]
    rfl
  obtain ⟨_, _, _, restores⟩ := always u steps
  have flat : Path.IsPlain (Path.bare ["out"]) := by
    change ∀ name ∈ ["out"], _
    decide
  have near (rel : Path) (file : nestedDisk.file? (["t"] ++ rel) ≠ none) : Path.isFarTooLong (["out"] ++ rel) = false := by
    have short : ∀ rel ∈ ["a", "d/b"].map Path.segments, Path.isFarTooLong (["out"] ++ rel) = false := by decide
    exact short rel ((mem_map_segments nested_listed).2 file)
  obtain ⟨succeeds, same⟩ := restores x outcome u.world ⟨false, none⟩ ["out"] (fun _ _ => rfl) flat absent
  obtain ⟨p, v, downloaded⟩ := succeeds.2 ⟨sample_good, canMake_out absent, near⟩
  exact ⟨u, x, steps, outcome, ran, p, v, downloaded, (same p v downloaded).2⟩

-- When the scope leads out of the store the check after a failed upload gives no answer, and where a file
-- is in the way a complete entry cannot be downloaded.
theorem no_miss_out_of_store_and_no_download_below_file :
    (∃ cause v, upload (sampleRemote "..") ⟨false, none⟩ sampleKey ["t"] sampleWorkspace =
        .error (.publication ["../cache/0123456789abcdef-0123456789abcdef/a"] []
          ["../cache/0123456789abcdef-0123456789abcdef"] cause) v ∧
      ∃ message details v', check (sampleRemote "..") ⟨false, none⟩ sampleKey v =
        .error (.configuration message details) v') ∧
    ∃ x v, upload (sampleRemote "") ⟨false, none⟩ sampleKey ["t"] sampleWorkspace = .ok x v ∧
      v.disk.find? ["t", "a", "x"] = none ∧
      ∀ p v', download (sampleRemote "") ⟨false, none⟩ sampleKey ["t", "a", "x"] v ≠ .ok p v' := by
  constructor
  · have valid : entryKey (sampleRemote "..") sampleKey = .ok (sampleEntry "..") := rfl
    have run := Filling.upload_eq (w := sampleWorkspace) valid sample_good sample_listed
    obtain ⟨e, v, put⟩ : ∃ e v, putAll (sampleRemote "..") (sampleEntry "..") ["t"] ["a"] sampleWorkspace =
        .ok [("../cache/0123456789abcdef-0123456789abcdef/a", e)] v := ⟨_, _, rfl⟩
    rw [Job.bind_ok put] at run
    have ended : Job.outcome (finish (sampleRemote "..") sampleKey (sampleEntry "..") ["a"]
        [("../cache/0123456789abcdef-0123456789abcdef/a", e)]) v = _ :=
      finish_of_failed (List.cons_ne_nil _ _) v
    cases finished : finish (sampleRemote "..") sampleKey (sampleEntry "..") ["a"]
        [("../cache/0123456789abcdef-0123456789abcdef/a", e)] v with
    | ok x w =>
      rw [Job.outcome_ok finished] at ended
      cases ended
    | error e' w =>
      rw [Job.outcome_error finished] at ended
      cases ended
      have single : Text.sorted ["../cache/0123456789abcdef-0123456789abcdef/a"] =
        ["../cache/0123456789abcdef-0123456789abcdef/a"] := by simp [Text.sorted]
      refine ⟨some e.message, v, run.trans (finished.trans ?_), _, _, v, rfl⟩
      rw [List.map_singleton, single]
      rfl
  · obtain ⟨x, v, ended⟩ := sample_uploaded
    have valid : entryKey (sampleRemote "") sampleKey = .ok (sampleEntry "") := rfl
    obtain ⟨u, r, steps, outcome, run⟩ := Filling.upload_reaches (w := sampleWorkspace) valid sample_good sample_listed
    rw [Job.outcome_ok ended] at run
    cases run
    have sound := (Filling.start_sound sampleHome ["t"] sampleKey (sampleEntry "") ["a"]
      sampleWorkspace).reaches sample_setting steps
    have listed := (sound.listed_entry sample_setting rfl outcome (d := u.world.disk) fun _ _ => rfl).1
    have above : u.world.disk.find? ["t", "a"] = some (.file (Text.encode "1")) := by
      have source : sampleDisk.find? ["t", "a"] = some (.file (Text.encode "1")) := rfl
      have kept := sound.filled.outside ["t", "a"] (by rintro ⟨rel, _, same⟩; simp [sampleHome] at same)
      rw [show sampleWorkspace.disk = sampleDisk from rfl, source] at kept
      exact kept (by simp)
    have absent : u.world.disk.find? ["t", "a", "x"] = none :=
      Disk.find?_eq_none_of_file above ⟨["x"], rfl⟩ (by simp)
    have plain : Path.IsPlain (Path.bare ["t", "a", "x"]) := by
      change ∀ name ∈ ["t", "a", "x"], _
      decide
    refine ⟨x, u.world, ended, absent, fun p v' downloaded => ?_⟩
    obtain ⟨⟨_, make, _⟩, _⟩ := listed.of_download plain absent downloaded
    have clear := make.clear ["t", "a"] ⟨["x"], rfl⟩
    rw [Disk.file?_eq_some_iff.2 above] at clear
    cases clear

end Sample

end Wheelhouse.Cache
