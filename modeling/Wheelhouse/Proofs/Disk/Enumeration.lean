import Wheelhouse.Proofs.Disk.Walk
import Wheelhouse.Proofs.Text.Fields

/-!
Listings and the order in which a folder shows what lies in it. A listing is the one list of the files
below a folder that is in order, and the wheels below it are those of the listing that are named as wheels:
sorting the texts once, or the paths in every folder, comes to the same, since all of them begin with the
folder. A disk shows the same whatever the order of its entries.
-/

set_option autoImplicit false

namespace Wheelhouse

-- The text of a place below a folder is that of the folder, and the rest of the way.
theorem Path.text_append_segments (p : Path) : ∃ start, ∀ text, (p ++ segments text).text = start ++ text := by
  by_cases top : p = []
  next =>
    refine ⟨"/", fun text => ?_⟩
    rw [top, List.nil_append, Path.text, joined_segments]
  next =>
    refine ⟨p.text ++ "/", fun text => ?_⟩
    have some : segments text ≠ [] := by simp [segments, Text.fields, Text.split_ne_nil]
    rw [Path.text, Text.joined_append _ top some, joined_segments, Path.text]
    simp only [String.append_assoc]

namespace Disk

variable {d d' : Disk}

theorem pathPrecedes_append_segments (p : Path) (f g : String) :
    pathPrecedes (p ++ Path.segments f) (p ++ Path.segments g) = Text.precedes f g := by
  obtain ⟨start, text⟩ := Path.text_append_segments p
  rw [pathPrecedes, text, text, Text.precedes_append]

-- The ending that names a wheel has no slash, so it shows in the whole of the way as in the last name.
theorem isWheelName_joined {rel : List String} (filled : rel ≠ []) (p : Path) :
    isWheelName (Text.joined "/" rel) = isWheelName ((p ++ rel).getLastD "") := by
  obtain ⟨init, last, rfl⟩ := (List.eq_nil_or_concat rel).resolve_left filled
  rw [List.concat_eq_append, ← List.append_assoc, List.getLastD_concat]
  by_cases alone : init = []
  next => rw [alone, List.nil_append, Text.joined_singleton]
  next =>
    have text : (Text.joined "/" (init ++ [last])).toList = (Text.joined "/" init).toList ++ '/' :: last.toList := by
      rw [Text.joined_append _ alone (List.cons_ne_nil _ _), Text.joined_singleton]
      simp
    rw [Bool.eq_iff_iff, isWheelName, isWheelName, List.isSuffixOf_iff_suffix, List.isSuffixOf_iff_suffix, text]
    exact Text.suffix_append_cons_iff (by decide)

theorem pairwise_of_listFilesRecursive {root : Path} {files : List String}
    (listed : d.listFilesRecursive root = .ok files) : files.Pairwise fun f g => Text.precedes f g = true := by
  obtain ⟨_, rfl⟩ := listFilesRecursive_ok_iff.1 listed
  exact Text.pairwise_sorted _

-- No other list than the listing is in order and has just the files.
theorem listFilesRecursive_of_mem_iff {root : Path} {files : List String} (there : d.find? root.bare = some .folder)
    (apart : files.Nodup) (ordered : files.Pairwise fun f g => Text.precedes f g = true)
    (members : ∀ f, f ∈ files ↔ ∃ rel, rel ≠ [] ∧ d.file? (root.bare ++ rel) ≠ none ∧ f = Text.joined "/" rel) :
    d.listFilesRecursive root = .ok files := by
  obtain ⟨found, listed⟩ : ∃ found, d.listFilesRecursive root = .ok found :=
    ⟨_, listFilesRecursive_ok_iff.2 ⟨there, rfl⟩⟩
  have same : found = files := by
    refine Text.eq_of_mem_iff (nodup_listFilesRecursive listed) apart (pairwise_of_listFilesRecursive listed) ordered
      fun f => ?_
    rw [mem_of_listFilesRecursive listed, members]
  rw [listed, same]

-- A folder in which the files are those of another disk is listed as there.
theorem listFilesRecursive_congr {root : Path} {files : List String} (listed : d.listFilesRecursive root = .ok files)
    {d' : Disk} (there : d'.find? root.bare = some .folder)
    (same : ∀ rel, d'.file? (root.bare ++ rel) = d.file? (root.bare ++ rel)) : d'.listFilesRecursive root = .ok files := by
  refine listFilesRecursive_of_mem_iff there (nodup_listFilesRecursive listed) (pairwise_of_listFilesRecursive listed)
    fun f => ?_
  simp only [same, mem_of_listFilesRecursive listed]

/-- The wheels among some ways from a folder, as places. -/
def wheelsOf (root : Path) (ways : List Path) : List Path :=
  (ways.filter fun way => isWheelName (Text.joined "/" way)).map fun way => root.bare ++ way

section

variable {root : Path} {files : List String}

theorem mem_segments_of_listed (listed : d.listFilesRecursive root = .ok files) {way : Path} :
    way ∈ files.map Path.segments ↔ way ≠ [] ∧ d.file? (root.bare ++ way) ≠ none := by
  simp only [List.mem_map, mem_of_listFilesRecursive listed]
  constructor
  · rintro ⟨_, ⟨way, filled, file, rfl⟩, rfl⟩
    rw [Path.segments_joined_of_isPlain filled (isPlain_of_file? file).right]
    exact ⟨filled, file⟩
  · rintro ⟨filled, file⟩
    exact ⟨_, ⟨way, filled, file, rfl⟩, Path.segments_joined_of_isPlain filled (isPlain_of_file? file).right⟩

theorem mem_wheelsOf (listed : d.listFilesRecursive root = .ok files) {q : Path} :
    q ∈ wheelsOf root (files.map Path.segments) ↔
      ∃ rel, rel ≠ [] ∧ q = root.bare ++ rel ∧ d.file? q ≠ none ∧ isWheelName (q.getLastD "") = true := by
  rw [wheelsOf, List.mem_map]
  simp only [List.mem_filter, mem_segments_of_listed listed]
  constructor
  · rintro ⟨way, ⟨⟨filled, file⟩, named⟩, rfl⟩
    exact ⟨way, filled, rfl, file, isWheelName_joined filled root.bare ▸ named⟩
  · rintro ⟨way, filled, rfl, file, named⟩
    exact ⟨way, ⟨⟨filled, file⟩, (isWheelName_joined filled root.bare).trans named⟩, rfl⟩

theorem exists_of_mem_wheelsOf {q : Path} (inside : q ∈ wheelsOf root (files.map Path.segments)) :
    ∃ f, q = root.bare ++ Path.segments f := by
  obtain ⟨way, kept, rfl⟩ := List.mem_map.1 inside
  obtain ⟨f, _, rfl⟩ := List.mem_map.1 (List.mem_of_mem_filter kept)
  exact ⟨f, rfl⟩

theorem nodup_wheelsOf (apart : files.Nodup) : (wheelsOf root (files.map Path.segments)).Nodup :=
  ((apart.map fun _ _ => Path.segments_inj).filter _).map fun _ _ => List.append_cancel_left

theorem pairwise_wheelsOf (ordered : files.Pairwise fun f g => Text.precedes f g = true) :
    (wheelsOf root (files.map Path.segments)).Pairwise fun a b => pathPrecedes a b = true := by
  rw [wheelsOf, List.pairwise_map]
  refine List.Pairwise.sublist List.filter_sublist (List.pairwise_map.2 (ordered.imp fun {f g} before => ?_))
  rwa [pathPrecedes_append_segments]

theorem findWheels_of_listing (listed : d.listFilesRecursive root = .ok files) :
    d.findWheels root = .ok (wheelsOf root (files.map Path.segments)) := by
  have there := (listFilesRecursive_ok_iff.1 listed).1
  obtain ⟨wheels, found⟩ : ∃ wheels, d.findWheels root = .ok wheels := ⟨_, findWheels_ok_iff.2 ⟨there, rfl⟩⟩
  have members (q : Path) : q ∈ wheels ↔ q ∈ wheelsOf root (files.map Path.segments) := by
    rw [mem_of_findWheels found, mem_wheelsOf listed]
  have apart : (wheelsOf root (files.map Path.segments)).Nodup := nodup_wheelsOf (nodup_listFilesRecursive listed)
  have ordered : (wheelsOf root (files.map Path.segments)).Pairwise fun a b => pathPrecedes a b = true :=
    pairwise_wheelsOf (pairwise_of_listFilesRecursive listed)
  have perm := (List.perm_ext_iff_of_nodup (nodup_of_findWheels found) apart).2 members
  have same : wheels = wheelsOf root (files.map Path.segments) := by
    refine perm.eq_of_pairwise (fun a b inside inside' before after => ?_) (pairwise_of_findWheels found) ordered
    obtain ⟨f, rfl⟩ := exists_of_mem_wheelsOf ((members a).1 inside)
    obtain ⟨g, rfl⟩ := exists_of_mem_wheelsOf inside'
    rw [pathPrecedes_append_segments] at before after
    rw [String.toList_inj.1 (Text.unitsLe_antisymm before after)]
  rw [found, same]

end

/-- The disk with its entries in another order. -/
def reorder (d : Disk) {entries : List (Path × Entry)} (perm : entries.Perm d.entries) : Disk where
  entries := entries
  nodup := (perm.map Prod.fst).nodup_iff.2 d.nodup
  rooted := fun inside => d.rooted ((perm.map Prod.fst).mem_iff.1 inside)
  closed := fun p found => by
    rw [Entries.lookup_perm perm d.nodup] at found ⊢
    exact d.closed p found
  named := fun p inside => d.named p ((perm.map Prod.fst).mem_iff.1 inside)

/-- The folders of a disk, the root among them. -/
def folders (d : Disk) : List Path := [] :: (d.entries.filter fun x => x.2.isFolder).map Prod.fst

theorem mem_folders {p : Path} : p ∈ d.folders ↔ d.find? p = some .folder := by
  simp only [folders, List.mem_cons, List.mem_map, List.mem_filter]
  constructor
  · rintro (rfl | ⟨⟨q, e⟩, ⟨inside, folder⟩, rfl⟩)
    · exact find?_nil
    · cases e with
      | folder => exact (mem_entries_iff.1 inside).2
      | file contents => cases folder
  · intro found
    by_cases top : p = []
    · exact .inl top
    · exact .inr ⟨(p, .folder), ⟨mem_entries_iff.2 ⟨top, found⟩, rfl⟩, rfl⟩

theorem nodup_folders : d.folders.Nodup := by
  have kept : ((d.entries.filter fun x => x.2.isFolder).map Prod.fst).Sublist (d.entries.map Prod.fst) :=
    List.filter_sublist.map _
  exact List.nodup_cons.2 ⟨fun inside => d.rooted (kept.subset inside), d.nodup.sublist kept⟩

section

/-- The entries of a disk folder by folder, those of each folder in a given order. -/
def arranged (d : Disk) (order : Path → List (String × Entry)) : List (Path × Entry) :=
  d.folders.flatMap fun p => (order p).map fun child => (p ++ [child.1], child.2)

variable {order : Path → List (String × Entry)}

theorem mem_arranged (same : ∀ p, (order p).Perm (d.children p)) {q : Path} {e : Entry} :
    (q, e) ∈ d.arranged order ↔ (q, e) ∈ d.entries := by
  rw [arranged, List.mem_flatMap, mem_entries_iff]
  constructor
  · rintro ⟨p, _, inside⟩
    obtain ⟨⟨name, e'⟩, child, whole⟩ := List.mem_map.1 inside
    cases whole
    exact ⟨by simp, mem_children.1 ((same p).mem_iff.1 child)⟩
  · rintro ⟨filled, found⟩
    obtain ⟨p, name, rfl⟩ := (List.eq_nil_or_concat q).resolve_left filled
    rw [List.concat_eq_append] at found ⊢
    have folder := find?_above (p := p) (by rw [found]; simp) (List.prefix_append _ _) (by simp)
    exact ⟨p, mem_folders.2 folder, List.mem_map.2 ⟨(name, e), (same p).mem_iff.2 (mem_children.2 found), rfl⟩⟩

theorem nodup_arranged (same : ∀ p, (order p).Perm (d.children p)) : (d.arranged order).Nodup := by
  rw [arranged, List.nodup_flatMap]
  constructor
  · intro p _
    have apart : (order p).Nodup :=
      (same p).nodup_iff.2 ((pairwise_children p).imp fun other same => other (congrArg Prod.fst same))
    refine apart.map ?_
    rintro ⟨name, e⟩ ⟨name', e'⟩ whole
    simpa using whole
  · refine nodup_folders.imp fun other => ?_
    simp only [Function.onFun, List.disjoint_left, List.mem_map]
    rintro x ⟨child, _, rfl⟩ ⟨child', _, whole⟩
    exact other (List.append_inj_left' (congrArg Prod.fst whole) rfl).symm

theorem arranged_perm (same : ∀ p, (order p).Perm (d.children p)) : (d.arranged order).Perm d.entries :=
  (List.perm_ext_iff_of_nodup (nodup_arranged same) (.of_map _ d.nodup)).2 fun _ => mem_arranged same

theorem childName?_concat (p q : Path) (name : String) :
    childName? p (q ++ [name]) = if q = p then some name else none := by
  simp [childName?]

theorem flatMap_ite_eq {α β : Type} [DecidableEq α] {xs : List α} (apart : xs.Nodup) (f : α → List β) (x : α) :
    (xs.flatMap fun y => if y = x then f y else []) = if x ∈ xs then f x else [] := by
  induction xs with
  | nil => rfl
  | cons y xs ih =>
    obtain ⟨fresh, apart⟩ := List.nodup_cons.1 apart
    rw [List.flatMap_cons, ih apart]
    by_cases here : y = x
    · subst here
      simp [fresh]
    · simp [here, Ne.symm here]

-- Every order in which folders may show what lies in them is that of a disk.
theorem children_reorder_arranged (same : ∀ p, (order p).Perm (d.children p)) (p : Path) :
    (d.reorder (arranged_perm same)).children p = order p := by
  have shown (q : Path) : ((order q).map fun child => (q ++ [child.1], child.2)).filterMap
      (fun x => (childName? p x.1).map fun name => (name, x.2)) = if q = p then order q else [] := by
    rw [List.filterMap_map]
    by_cases here : q = p <;> simp [childName?_concat, here]
  rw [children]
  change (d.arranged order).filterMap _ = _
  rw [arranged, List.filterMap_flatMap]
  simp only [shown]
  rw [flatMap_ite_eq nodup_folders]
  by_cases folder : p ∈ d.folders
  · rw [if_pos folder]
  · rw [if_neg folder]
    have none : d.children p = [] := by
      refine List.eq_nil_iff_forall_not_mem.2 fun child inside => folder ?_
      exact mem_folders.2 <| find?_above (by rw [mem_children.1 inside]; simp) (List.prefix_append _ _) (by simp)
    have alone := same p
    rw [none] at alone
    exact alone.eq_nil.symm

theorem find?_of_children_perm (same : ∀ p, (d'.children p).Perm (d.children p)) (p : Path) :
    d'.find? p = d.find? p := by
  rcases List.eq_nil_or_concat p with rfl | ⟨init, last, rfl⟩
  · rw [find?_nil, find?_nil]
  · ext e
    rw [List.concat_eq_append, ← mem_children, ← mem_children, (same init).mem_iff]

end

/-- Whatever the order in which each folder shows what lies in it, a walk lists the way to every file below a folder
once, in the order of code units of the whole way, and a search for wheels finds the files whose way has the ending
of a wheel, in the same order. In a name that has one, a private-use character from U+10D800 to U+10DFFF counts as
half a surrogate pair, as everywhere in `Text.codeUnits`. -/
theorem listings_ignore_order {root : Path} (there : d.find? root.bare = some .folder) :
    ∃ ways : List Path, (∀ way, way ∈ ways ↔ way ≠ [] ∧ d.file? (root.bare ++ way) ≠ none) ∧
      (ways.map (Text.joined "/")).Nodup ∧
      (ways.map (Text.joined "/")).Pairwise (fun f g => ¬Text.codeUnits g.toList < Text.codeUnits f.toList) ∧
      ∀ order : Path → List (String × Entry), (∀ p, (order p).Perm (d.children p)) →
        (∃ d' : Disk, d'.children = order) ∧ ∀ d' : Disk, d'.children = order →
          d'.listFilesRecursive root = .ok (ways.map (Text.joined "/")) ∧
          d'.findWheels root =
            .ok ((ways.filter fun way => isWheelName (Text.joined "/" way)).map fun way => root.bare ++ way) := by
  obtain ⟨files, listed⟩ : ∃ files, d.listFilesRecursive root = .ok files :=
    ⟨_, listFilesRecursive_ok_iff.2 ⟨there, rfl⟩⟩
  have apart := nodup_listFilesRecursive listed
  have ordered := pairwise_of_listFilesRecursive listed
  have texts : (files.map Path.segments).map (Text.joined "/") = files := by
    simp [Function.comp_def, Path.joined_segments]
  refine ⟨files.map Path.segments, fun way => mem_segments_of_listed listed, ?_⟩
  rw [texts]
  refine ⟨apart, ordered.imp Text.not_codeUnits_lt_of_precedes, fun order perm => ?_⟩
  refine ⟨⟨_, funext (children_reorder_arranged perm)⟩, ?_⟩
  rintro d' rfl
  have same := find?_of_children_perm perm
  have listed' : d'.listFilesRecursive root = .ok files := by
    refine listFilesRecursive_of_mem_iff ((same _).trans there) apart ordered fun f => ?_
    rw [mem_of_listFilesRecursive listed]
    simp only [file?_congr (same _)]
  exact ⟨listed', findWheels_of_listing listed'⟩

section Sample

-- A hyphen comes before the slash, and a folder may have the name of a wheel.
def mixedDisk : Disk :=
  ((((((Disk.empty.put ["r"] .folder).put ["r", "a-b.whl"] (.file .empty)).put ["r", "a"] .folder).put
    ["r", "a", "x.whl"] (.file .empty)).put ["r", "k.whl"] .folder).put ["r", "k.whl", "y.whl"] (.file .empty)).put
    ["r", "k.whl", "z.txt"] (.file .empty)

def mixedFiles : List String := ["a-b.whl", "a/x.whl", "k.whl/y.whl", "k.whl/z.txt"]

theorem mixed_listed : mixedDisk.listFilesRecursive ["r"] = .ok mixedFiles := by
  have walked : (mixedDisk.walk (mixedDisk.entries.length + 1) ["r"]).map (Path.relativeText ["r"]) = mixedFiles := by
    decide +kernel
  have ordered : mixedFiles.Pairwise fun f g => Text.precedes f g = true := by decide +kernel
  exact listFilesRecursive_ok_iff.2 ⟨rfl, (congrArg Text.sorted walked).trans (List.mergeSort_of_pairwise ordered)⟩

theorem listings_of_mixed_backwards : mixedDisk.find? (Path.bare ["r"]) = some .folder ∧
    ∃ d' : Disk, (d'.children = fun p => (mixedDisk.children p).reverse) ∧
      d'.listFilesRecursive ["r"] = .ok ["a-b.whl", "a/x.whl", "k.whl/y.whl", "k.whl/z.txt"] ∧
      d'.findWheels ["r"] = .ok [["r", "a-b.whl"], ["r", "a", "x.whl"], ["r", "k.whl", "y.whl"]] := by
  have there : mixedDisk.find? (Path.bare ["r"]) = some .folder := rfl
  obtain ⟨ways, members, _, _, shown⟩ := listings_ignore_order there
  have texts : ways.map (Text.joined "/") = mixedFiles := by
    have listed := ((shown _ fun p => List.Perm.refl _).2 mixedDisk rfl).1
    exact (Except.ok.inj (mixed_listed.symm.trans listed)).symm
  have named : (ways.map (Text.joined "/")).map Path.segments = ways := by
    rw [List.map_map]
    refine (List.map_congr_left fun way inside => ?_).trans (List.map_id ways)
    obtain ⟨filled, file⟩ := (members way).1 inside
    exact Path.segments_joined_of_isPlain filled (isPlain_of_file? file).right
  have all : ways = [["a-b.whl"], ["a", "x.whl"], ["k.whl", "y.whl"], ["k.whl", "z.txt"]] := by
    rw [← named, texts]
    decide +kernel
  obtain ⟨⟨d', turned⟩, others⟩ := shown (fun p => (mixedDisk.children p).reverse) fun p => List.reverse_perm _
  obtain ⟨listed, found⟩ := others d' turned
  rw [texts] at listed
  rw [all] at found
  exact ⟨there, d', turned, listed, found⟩

end Sample

end Disk

end Wheelhouse
