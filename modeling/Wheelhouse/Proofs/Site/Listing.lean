import Mathlib.Data.List.Perm.Basic
import Wheelhouse.Proofs.Site.Html
import Wheelhouse.Proofs.Site.Pages

/-!
What an index lists. Every file among the wheels is skipped or in one package, packages and files are in
order, and from each page its links can be read back: whatever the names, the labels and the base address
are, they cannot end the element they stand in.
-/

set_option autoImplicit false

namespace Wheelhouse.Index

section Packages

variable {groups : List (String × List Archive)} {a : Archive} {filenames : List String}

theorem flatMap_gather (groups : List (String × List Archive)) (a : Archive) :
    ((gather groups a).flatMap Prod.snd).Perm (groups.flatMap Prod.snd ++ [a]) := by
  induction groups with
  | nil => exact .refl _
  | cons g rest ih =>
    obtain ⟨name, members⟩ := g
    unfold gather
    split
    · rw [List.flatMap_cons, List.flatMap_cons, List.append_assoc, List.append_assoc]
      exact .append_left _ List.perm_append_comm
    · rw [List.flatMap_cons, List.flatMap_cons, List.append_assoc]
      exact .append_left _ ih

theorem flatMap_foldl_gather (groups : List (String × List Archive)) (archives : List Archive) :
    ((archives.foldl gather groups).flatMap Prod.snd).Perm (groups.flatMap Prod.snd ++ archives) := by
  induction archives generalizing groups with
  | nil => rw [List.append_nil]; exact .refl _
  | cons a archives ih =>
    refine (ih (gather groups a)).trans ?_
    rw [List.append_cons]
    exact (flatMap_gather groups a).append_right archives

-- No archive is lost when they are grouped and put in order, and none is made twice.
theorem flatMap_packages (filenames : List String) :
    ((packages filenames).flatMap Prod.snd).Perm (filenames.filterMap Archive.parse?) := by
  unfold packages
  rw [List.flatMap_map]
  have grouped := flatMap_foldl_gather [] (filenames.filterMap Archive.parse?)
  refine (List.Perm.flatMap (List.mergeSort_perm _ packagePrecedes) fun g _ => ?_).trans grouped
  exact List.mergeSort_perm g.2 archivePrecedes

theorem countArchives_eq (groups : List (String × List Archive)) :
    countArchives groups = (groups.flatMap Prod.snd).length := by
  induction groups with
  | nil => rfl
  | cons g rest ih => rw [countArchives, ih, List.flatMap_cons, List.length_append]

theorem map_filename (filenames : List String) : (filenames.filterMap Archive.parse?).map Archive.filename =
    filenames.filter fun f => (Archive.parse? f).isSome := by
  induction filenames with
  | nil => rfl
  | cons f filenames ih =>
    cases parsed : Archive.parse? f with
    | none => simp [parsed, ih]
    | some a => simp [parsed, ih, (Archive.of_parse? parsed).1]

theorem countArchives_packages (filenames : List String) :
    countArchives (packages filenames) + (unreadable filenames).length = filenames.length := by
  have readable : countArchives (packages filenames) = (filenames.filter fun f => (Archive.parse? f).isSome).length := by
    rw [countArchives_eq, (flatMap_packages filenames).length_eq, ← map_filename, List.length_map]
  have parts := List.length_eq_length_filter_add (l := filenames) fun f => (Archive.parse? f).isSome
  simp only [Option.not_isSome] at parts
  rw [readable, unreadable, parts]

theorem strictly_sorted_packages (filenames : List String) :
    ((packages filenames).map Prod.fst).Pairwise fun a b => Text.strictlyPrecedes a b = true := by
  have order : ((packages filenames).map Prod.fst).Pairwise fun a b => Text.precedes a b = true := by
    unfold packages
    rw [List.map_map, List.pairwise_map]
    exact List.pairwise_mergeSort
      (fun a b c => Text.unitsLe_trans (a := a.1.toList) (b := b.1.toList) (c := c.1.toList))
      (fun a b => Text.unitsLe_total a.1.toList b.1.toList) _
  exact (order.and (nodup_packages filenames)).imp fun both => Text.strictlyPrecedes_of_ne both.1 both.2

theorem strictly_sorted_members (distinct : filenames.Nodup) {g : String × List Archive}
    (inside : g ∈ packages filenames) :
    (g.2.map Archive.filename).Pairwise fun a b => Text.strictlyPrecedes a b = true := by
  have once : (((packages filenames).flatMap Prod.snd).map Archive.filename).Nodup := by
    rw [((flatMap_packages filenames).map _).nodup_iff, map_filename]
    exact distinct.filter _
  have apart : (g.2.map Archive.filename).Nodup :=
    once.sublist ((List.sublist_flatten_of_mem (List.mem_map_of_mem inside)).map _)
  have order : (g.2.map Archive.filename).Pairwise fun a b => Text.precedes a b = true := by
    obtain ⟨h, _, rfl⟩ := List.mem_map.1 inside
    rw [List.pairwise_map]
    exact List.pairwise_mergeSort
      (fun a b c => Text.unitsLe_trans (a := a.filename.toList) (b := b.filename.toList) (c := c.filename.toList))
      (fun a b => Text.unitsLe_total a.filename.toList b.filename.toList) _
  exact (order.and apart).imp fun both => Text.strictlyPrecedes_of_ne both.1 both.2

theorem mem_files_packages {f name : String} :
    (∃ g ∈ packages filenames, g.1 = name ∧ f ∈ g.2.map Archive.filename) ↔
      f ∈ filenames ∧ ∃ a, Archive.parse? f = some a ∧ a.normalizedName = name := by
  constructor
  · rintro ⟨g, inside, rfl, file⟩
    obtain ⟨a, member, rfl⟩ := List.mem_map.1 file
    obtain ⟨listed, parsed, named⟩ := of_mem_packages inside member
    exact ⟨listed, a, parsed, named.symm⟩
  · rintro ⟨listed, a, parsed, rfl⟩
    obtain ⟨members, inside, member⟩ := isListed_packages.2 ⟨List.mem_filterMap.2 ⟨f, listed, parsed⟩, rfl⟩
    exact ⟨_, inside, rfl, List.mem_map.2 ⟨a, member, (Archive.of_parse? parsed).1⟩⟩

end Packages

/-- Every file among the wheels is skipped, if its name describes no archive, or else in one package only,
the one of its name. Packages and files are strictly in order, and all of them are counted. From the page of
each package the addresses and the names of its archives can be read back, and from the page of the variant
those of its packages; there are no other anchors. -/
theorem run_lists {wheels output : Path} {options : IndexOptions} {result : IndexResult} {w w' : Workspace}
    (generated : run wheels output options w = .ok result w') :
    ∃ filenames, w.disk.listFiles wheels = .ok filenames ∧
      (∀ f, f ∈ result.skipped ↔ f ∈ filenames ∧ Archive.parse? f = none) ∧
      (∀ f name, (∃ p ∈ result.packages, p.name = name ∧ f ∈ p.files) ↔
        f ∈ filenames ∧ ∃ a, Archive.parse? f = some a ∧ a.normalizedName = name) ∧
      (result.packages.map IndexedPackage.name).Pairwise (fun a b => Text.strictlyPrecedes a b = true) ∧
      (∀ p ∈ result.packages, p.files.Pairwise fun a b => Text.strictlyPrecedes a b = true) ∧
      result.totalFiles + result.skipped.length = filenames.length ∧
      (∀ p ∈ result.packages, ∃ page,
        w'.disk.file? (output.bare ++ [options.variant, p.name, pageName]) = some (Text.encode page) ∧
          Html.anchors page.toList = p.files.map fun f => (archiveHref w.disk wheels options f, f)) ∧
      ∃ page, w'.disk.file? (output.bare ++ [options.variant, pageName]) = some (Text.encode page) ∧
        Html.anchors page.toList = result.packages.map fun p => (Text.percentEncode p.name ++ "/", p.name ++ "/") := by
  obtain ⟨_, filenames, names, v, listed, _, _, writes, rfl⟩ := run_writes generated
  have held := writes.holds (onlyPages_erase (by simp))
  refine ⟨filenames, listed, fun f => ?_, fun f name => ?_, ?_, ?_, ?_, ?_, ?_⟩
  · simp [unreadable]
  · rw [← mem_files_packages]
    simp
  · rw [List.map_map]
    exact strictly_sorted_packages filenames
  · intro p inside
    obtain ⟨g, member, rfl⟩ := List.mem_map.1 inside
    exact strictly_sorted_members (Disk.nodup_of_listFiles listed) member
  · exact countArchives_packages filenames
  · intro p inside
    obtain ⟨g, member, rfl⟩ := List.mem_map.1 inside
    refine ⟨_, held.page _ _ (List.mem_append_left _ (List.mem_append_left _ (List.mem_map_of_mem member))), ?_⟩
    rw [Html.anchors_page, List.map_map, List.map_map]
    rfl
  · refine ⟨_, held.page _ _ (List.mem_append_left _ (List.mem_append_right _ List.mem_cons_self)), ?_⟩
    rw [Html.anchors_page, List.map_map, List.map_map]
    rfl

section Sample

-- A wheel whose tags look like the end of an anchor.
def oddFile : String := "a-1-py3-none-\"><&lt;.whl"

def oddArchive : Archive := ⟨oddFile, "a", "1", .wheel none ⟨"py3", "none", "\"><&lt;"⟩⟩

def oddWorkspace : Workspace :=
  ⟨(Disk.empty.put ["w"] .folder).put ["w", oddFile] (.file (Text.encode "1")), [], [], [], [], 0⟩

def oddOptions : IndexOptions := ⟨"v", some "https://h/\"><a>", ⟨some "</title>&amp;", none, none⟩, false⟩

theorem odd_parsed : Archive.parse? oddFile = some oddArchive := by decide +kernel

theorem odd_listed : oddWorkspace.disk.listFiles ["w"] = .ok [oddFile] :=
  Disk.listFiles_of_single rfl (by decide)

theorem odd_generated : ∃ result w', run ["w"] ["o"] oddOptions oddWorkspace = .ok result w' := by
  have name : oddArchive.normalizedName = "a" := by decide +kernel
  have groups : packages [oddFile] = [("a", [oddArchive])] := by simp [packages, odd_parsed, gather, name]
  have reported : report [oddFile] oddWorkspace = .ok () oddWorkspace := by simp [report, unreadable, odd_parsed]
  obtain ⟨indexed, v, written, there, fits⟩ : ∃ indexed v,
      writeVariant ["w"] ["o"] oddOptions [("a", [oddArchive])] oddWorkspace = .ok indexed v ∧
        v.disk.find? ["o"] = some .folder ∧ v.disk.takes ["o", "index.html"] = true := ⟨_, _, rfl, rfl, rfl⟩
  exact exists_run (by decide) odd_listed reported (groups ▸ written) there fits (by decide)

theorem run_lists_sample : ∃ result w' page, run ["w"] ["o"] oddOptions oddWorkspace = .ok result w' ∧
    w'.disk.file? ["o", "v", "a", "index.html"] = some (Text.encode page) ∧
      ("https://h/\"><a>/a-1-py3-none-%22%3E%3C%26lt%3B.whl", oddFile) ∈ Html.anchors page.toList := by
  obtain ⟨result, w', ran⟩ := odd_generated
  obtain ⟨filenames, listed, _, sorted, _, _, _, pages, _⟩ := run_lists ran
  obtain rfl := Except.ok.inj (odd_listed.symm.trans listed)
  obtain ⟨p, inside, named, file⟩ := (sorted oddFile "a").2 ⟨by simp, oddArchive, odd_parsed, by decide +kernel⟩
  obtain ⟨page, there, anchors⟩ := pages p inside
  rw [named] at there
  refine ⟨result, w', page, ran, there, ?_⟩
  rw [anchors]
  have address : archiveHref oddWorkspace.disk ["w"] oddOptions oddFile =
      "https://h/\"><a>/a-1-py3-none-%22%3E%3C%26lt%3B.whl" := by decide +kernel
  exact List.mem_map.2 ⟨oddFile, file, by rw [address]⟩

end Sample

end Wheelhouse.Index
