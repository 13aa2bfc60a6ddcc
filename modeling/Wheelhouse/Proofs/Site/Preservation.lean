import Wheelhouse.Proofs.Site.Closure
import Wheelhouse.Proofs.Site.Variant
import Wheelhouse.Proofs.Store.Fetch

/-!
What an index run does to the archives, wherever the three folders lie. It writes pages only, and no archive
is called like a page; but it removes the folder of its variant first, with all that lies there.
-/

set_option autoImplicit false

namespace Wheelhouse

namespace Disk

variable {places : Path → Prop} {d d' : Disk}

-- Outside some places no file is changed, none is gone and none is new.
def KeepsFiles (places : Path → Prop) (d d' : Disk) : Prop := ∀ q, ¬places q → d'.file? q = d.file? q

instance (places : Path → Prop) : IsPreorder Disk (KeepsFiles places) where
  refl _ _ _ := rfl
  trans _ _ _ first later q apart := (later q apart).trans (first q apart)

theorem Gains.keepsFiles {p : Path} (gains : d.Gains d' p) : KeepsFiles places d d' := fun q _ => gains.file? q

theorem keepsFiles_put {p : Path} (inside : places p) (e : Entry) : KeepsFiles places d (d.put p e) := by
  intro q apart
  by_cases fits : d.takes p = true
  · refine file?_congr ((find?_put fits q).trans (if_neg ?_))
    rintro rfl
    exact apart inside
  · rw [put, dif_neg fits]

end Disk

namespace Index

open Disk (KeepsFiles)
open Job (OnDisk)

variable {wheels output : Path} {options : IndexOptions} {w : Workspace} {f : String}

def IsPage (q : Path) : Prop := q.getLast? = some pageName

theorem respects_still {α : Type} {t : Job α} (keeps : Job.KeepsDisk t) : Respects (OnDisk (KeepsFiles IsPage)) t :=
  keeps.respects fun w v same => by
    change KeepsFiles IsPage w.disk v.disk
    rw [same]
    exact refl_of _ _

theorem respects_ensureFolder (p : Path) : Respects (OnDisk (KeepsFiles IsPage)) (Job.ensureFolder p) :=
  Job.respects_change_onDisk (Disk.respects_ensureFolder_of fun _ _ gains => gains.keepsFiles)

theorem respects_writePage (p : Path) (text : String) :
    Respects (OnDisk (KeepsFiles IsPage)) (Job.writeText (p.child pageName) text) := by
  have inside : IsPage (p.child pageName) := List.getLast?_concat
  exact Job.respects_change_onDisk (Disk.respects_writeFile_of fun _ => Disk.keepsFiles_put inside _)

theorem keepsDisk_archiveLink (wheels : Path) (options : IndexOptions) (a : Archive) :
    Job.KeepsDisk (archiveLink wheels options a) := by
  unfold archiveLink
  split
  · exact (Job.keepsDisk_look _).bind fun digest => (Job.isIdle_pure _).keepsDisk
  · exact (Job.isIdle_pure _).keepsDisk

theorem respects_writePackage (wheels folder : Path) (options : IndexOptions) (package : String × List Archive) :
    Respects (OnDisk (KeepsFiles IsPage)) (writePackage wheels folder options package) :=
  (respects_mapM fun a _ => respects_still (keepsDisk_archiveLink wheels options a)).bind fun _ =>
    (respects_ensureFolder _).bind fun _ => (respects_writePage _ _).bind fun _ => respects_pure _

theorem respects_writePages (wheels folder : Path) (options : IndexOptions) (groups : List (String × List Archive)) :
    Respects (OnDisk (KeepsFiles IsPage)) (writePages wheels folder options groups) :=
  (respects_mapM fun g _ => respects_writePackage wheels folder options g).bind fun _ =>
    (respects_writePage folder _).bind fun _ => respects_pure _

theorem respects_writeRoot (output : Path) : Respects (OnDisk (KeepsFiles IsPage)) (writeRoot output) :=
  (respects_still (Job.keepsDisk_look _)).bind fun _ => (respects_writePage output _).bind fun _ => respects_pure _

-- All that comes after the folder of the variant has been removed.
theorem final_writeVariant {β : Type} {rest : List IndexedPackage → Job β}
    (later : ∀ indexed, Respects (OnDisk (KeepsFiles IsPage)) (rest indexed)) (wheels output : Path)
    (options : IndexOptions) (groups : List (String × List Archive)) (w : Workspace) :
    KeepsFiles IsPage (final (Disk.attempt fun d => d.remove (output.child options.variant)) w.disk)
      (final (writeVariant wheels output options groups >>= rest) w).disk := by
  have written (a : Unit) : Respects (OnDisk (KeepsFiles IsPage))
      (Job.ensureFolder (output.child options.variant) >>= fun _ =>
        writePages wheels (output.child options.variant) options groups >>= rest) :=
    (respects_ensureFolder _).bind fun _ => (respects_writePages wheels _ options groups).bind later
  have after := Respects.after (x := Job.remove (output.child options.variant)) written w
  rw [Job.remove, Job.final_change] at after
  rw [writeVariant_eq, bind_assoc]
  simp only [bind_assoc]
  exact after

-- Apart from the pages, a run leaves the files that are there once the folder of the variant is removed.
theorem file?_of_run {filenames : List String} (proper : isVariant options.variant = true)
    (listed : w.disk.listFiles wheels = .ok filenames) {q : Path} (apart : ¬IsPage q) :
    (final (run wheels output options) w).disk.file? q =
      (final (Disk.attempt fun d => d.remove (output.child options.variant)) w.disk).file? q := by
  obtain ⟨_, v, reported, same⟩ := isIdle_report filenames w
  unfold report at reported
  have started : final (run wheels output options) w =
      final (writeVariant wheels output options (packages filenames) >>= fun indexed =>
        writeRoot output >>= fun variants => do
          Job.info "인덱스 생성 완료"
            [("outputDir", .string output.text), ("variant", .string options.variant),
              ("packages", .number (.ofNat (packages filenames).length)),
              ("totalFiles", .number (.ofNat (countArchives (packages filenames)))),
              ("skipped", .number (.ofNat (unreadable filenames).length))]
          return IndexResult.mk output options.variant variants indexed (countArchives (packages filenames))
            (unreadable filenames)) v := by
    unfold run
    rw [if_pos proper]
    beta_reduce
    rw [final_bind_ok (Job.has_run wheels w), if_pos (Disk.has_of_listFiles listed)]
    beta_reduce
    rw [final_bind_ok (Job.look_ok_iff.2 ⟨listed, rfl⟩)]
    simp only
    rw [final_bind_ok reported]
  rw [started, ← same]
  refine final_writeVariant (fun indexed => ?_) wheels output options (packages filenames) v q apart
  refine (respects_writeRoot output).bind fun variants => ?_
  exact respects_still ((Job.isIdle_record _).bind fun _ => Job.isIdle_pure _).keepsDisk

theorem not_isPage_of_parse? (archive : (Archive.parse? f).isSome = true) (p : Path) : ¬IsPage (p ++ [f]) := by
  obtain ⟨a, parsed⟩ := Option.isSome_iff_exists.1 archive
  intro page
  have extension := Archive.hasExtension_of_parse (Archive.parse?_eq_some_iff.1 parsed)
  rw [IsPage, List.getLast?_concat, Option.some.injEq] at page
  rw [page] at extension
  exact absurd extension (by decide +kernel)

/-- Wherever the folders lie, and also when the run fails, an archive outside the folder of the variant stays
where it is, with the same contents. In that folder no archive stays, unless the path of the folder is
longer than the system takes it. -/
theorem archive_kept_outside_variant {contents : ByteArray} (proper : isVariant options.variant = true)
    (archive : (Archive.parse? f).isSome = true) (there : w.disk.file? (wheels.bare ++ [f]) = some contents) :
    (¬output.child options.variant <+: wheels.bare ++ [f] →
      (final (run wheels output options) w).disk.file? (wheels.bare ++ [f]) = some contents) ∧
    (output.child options.variant <+: wheels.bare ++ [f] → (output.child options.variant).isFarTooLong = false →
      (final (run wheels output options) w).disk.file? (wheels.bare ++ [f]) = none) := by
  have found : w.disk.find? (wheels.bare ++ [f]) ≠ none := Disk.found_of_file? (by simp [there])
  have folder := Disk.find?_above found (List.prefix_append _ _) (by simp)
  obtain ⟨filenames, listed⟩ : ∃ filenames, w.disk.listFiles wheels = .ok filenames := by
    rw [Disk.listFiles, Disk.list_of_find? folder]
    exact ⟨_, rfl⟩
  rw [file?_of_run proper listed (not_isPage_of_parse? archive wheels.bare)]
  have unmarked := isMarked_child (ne_empty_of_isVariant proper) output
  have erased : (w.disk.erase (output.child options.variant).bare).find? (wheels.bare ++ [f]) =
      if output.child options.variant <+: wheels.bare ++ [f] then none else w.disk.find? (wheels.bare ++ [f]) := by
    rw [Path.bare_of_not_isMarked unmarked, Disk.find?_erase_below (child_ne_nil _ _)]
  refine ⟨fun apart => ?_, fun inside near => ?_⟩
  · cases removed : w.disk.remove (output.child options.variant) with
    | error x => rw [Disk.final_attempt_error (f := fun d => d.remove _) removed, there]
    | ok d =>
      rw [Disk.final_attempt_ok (f := fun d => d.remove _) removed, Disk.remove_ok removed,
        Disk.file?_congr (erased.trans (if_neg apart)), there]
  · have removed := Disk.remove_of_found found inside near
    rw [Disk.final_attempt_ok (f := fun d => d.remove _) removed, Disk.file?, erased, if_pos inside]

section Sample

open Publish (sampleDisk sampleWorkspace sampleOptions sampleArchive sample_parsed sample_packages sample_generated)

-- The archive lies where the pages of the variant go.
def nestedDisk : Disk :=
  ((Disk.empty.put ["o"] .folder).put ["o", "v"] .folder).put ["o", "v", "a-1.zip"] (.file (Text.encode "1"))

def nestedWorkspace : Workspace := ⟨nestedDisk, [], [], [], [], 0⟩

theorem nested_listed : nestedDisk.listFiles ["o", "v"] = .ok ["a-1.zip"] :=
  Disk.listFiles_of_single rfl (by decide)

theorem nested_generated : ∃ result w, run ["o", "v"] ["o"] sampleOptions nestedWorkspace = .ok result w := by
  have reported : report ["a-1.zip"] nestedWorkspace = .ok () nestedWorkspace := by
    simp [report, unreadable, sample_parsed]
  obtain ⟨indexed, v, written, there, fits⟩ : ∃ indexed v,
      writeVariant ["o", "v"] ["o"] sampleOptions [("a", [sampleArchive])] nestedWorkspace = .ok indexed v ∧
        v.disk.find? ["o"] = some .folder ∧ v.disk.takes ["o", "index.html"] = true :=
    ⟨_, _, rfl, rfl, rfl⟩
  exact exists_run (by decide) nested_listed reported (sample_packages ▸ written) there fits (by decide)

theorem archive_kept_outside_variant_sample :
    (∃ result w, run ["w"] ["o"] sampleOptions sampleWorkspace = .ok result w ∧
      w.disk.file? ["w", "a-1.zip"] = some (Text.encode "1")) ∧
    (final (run ["o", "v"] ["o"] sampleOptions) nestedWorkspace).disk.file? ["o", "v", "a-1.zip"] =
      none := by
  have archive : (Archive.parse? "a-1.zip").isSome = true := Option.isSome_iff_exists.2 ⟨_, sample_parsed⟩
  obtain ⟨result, w, ran⟩ := sample_generated
  have there : sampleWorkspace.disk.file? (Path.bare ["w"] ++ ["a-1.zip"]) = some (Text.encode "1") := rfl
  have kept : (final (run ["w"] ["o"] sampleOptions) sampleWorkspace).disk.file? ["w", "a-1.zip"] =
      some (Text.encode "1") := (archive_kept_outside_variant (by decide) archive there).1 (by decide)
  rw [final_ok ran] at kept
  have there' : nestedWorkspace.disk.file? (Path.bare ["o", "v"] ++ ["a-1.zip"]) = some (Text.encode "1") := rfl
  exact ⟨⟨result, w, ran, kept⟩, (archive_kept_outside_variant (by decide) archive there').2 (by decide) (by decide)⟩

-- A run that succeeds may lose its archives.
theorem archive_not_kept : isVariant sampleOptions.variant = true ∧ (Archive.parse? "a-1.zip").isSome = true ∧
    nestedDisk.file? ["o", "v", "a-1.zip"] = some (Text.encode "1") ∧
      ∃ result w, run ["o", "v"] ["o"] sampleOptions nestedWorkspace = .ok result w ∧
        w.disk.file? ["o", "v", "a-1.zip"] = none := by
  have archive : (Archive.parse? "a-1.zip").isSome = true := Option.isSome_iff_exists.2 ⟨_, sample_parsed⟩
  obtain ⟨result, w, ran⟩ := nested_generated
  have left : (final (run ["o", "v"] ["o"] sampleOptions) nestedWorkspace).disk.file? ["o", "v", "a-1.zip"] =
      (final (Disk.attempt fun d => d.remove ["o", "v"]) nestedDisk).file? ["o", "v", "a-1.zip"] :=
    file?_of_run (by decide) nested_listed (not_isPage_of_parse? archive ["o", "v"])
  have gone : (final (Disk.attempt fun d => d.remove ["o", "v"]) nestedDisk).file? ["o", "v", "a-1.zip"] = none := rfl
  rw [final_ok ran] at left
  exact ⟨by decide, archive, rfl, result, w, ran, left.trans gone⟩

end Sample

end Index

end Wheelhouse
