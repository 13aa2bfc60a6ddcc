import Mathlib.Data.List.Basic
import Mathlib.Data.List.Nodup
import Wheelhouse.Disk.Walk
import Wheelhouse.Proofs.Disk.Gains
import Wheelhouse.Proofs.Text.Units

/-!
What a listing lists: the relative paths of exactly the files below a folder. A walk is deep enough for
all of them, since every step down passes another folder of the disk.
-/

set_option autoImplicit false

namespace Wheelhouse.Disk

variable {d : Disk}

theorem childName?_eq_some_iff {p q : Path} {name : String} : childName? p q = some name ↔ q = p ++ [name] := by
  rcases List.eq_nil_or_concat q with rfl | ⟨init, last, rfl⟩
  · simp [childName?]
  · simp only [List.concat_eq_append, childName?, List.getLast?_concat, List.dropLast_concat,
      Option.ite_none_right_eq_some, Option.some.injEq]
    constructor
    · rintro ⟨rfl, rfl⟩
      rfl
    · intro same
      have parts := List.append_inj' same rfl
      exact ⟨parts.1, (List.cons.inj parts.2).1⟩

theorem mem_children {p : Path} {name : String} {e : Entry} :
    (name, e) ∈ d.children p ↔ d.find? (p ++ [name]) = some e := by
  have inside : (p ++ [name], e) ∈ d.entries ↔ d.find? (p ++ [name]) = some e := by
    simp [mem_entries_iff]
  rw [← inside, children, List.mem_filterMap]
  constructor
  · rintro ⟨⟨q, e'⟩, member, found⟩
    obtain ⟨n, child, same⟩ := Option.map_eq_some_iff.1 found
    cases same
    exact childName?_eq_some_iff.1 child ▸ member
  · intro member
    exact ⟨_, member, by rw [childName?_eq_some_iff.2 rfl, Option.map_some]⟩

theorem mem_walk {fuel : Nat} {p q : Path} : q ∈ d.walk fuel p ↔
    ∃ rel, rel ≠ [] ∧ rel.length ≤ fuel ∧ q = p ++ rel ∧ d.file? q ≠ none := by
  induction fuel generalizing p with
  | zero =>
    refine ⟨fun inside => by simp [walk] at inside, ?_⟩
    rintro ⟨rel, filled, short, _⟩
    exact absurd (List.length_eq_zero_iff.1 (Nat.le_zero.1 short)) filled
  | succ fuel ih =>
    rw [walk, List.mem_flatMap]
    constructor
    · rintro ⟨⟨name, e⟩, child, inside⟩
      have there := mem_children.1 child
      cases e with
      | folder =>
        obtain ⟨rel, _, short, same, file⟩ := ih.1 inside
        exact ⟨name :: rel, by simp, Nat.succ_le_succ short, by simpa using same, file⟩
      | file contents =>
        obtain rfl := List.mem_singleton.1 inside
        exact ⟨[name], by simp, by simp, rfl, by simp [file?_eq_some_iff.2 there]⟩
    · rintro ⟨rel, filled, short, rfl, file⟩
      obtain ⟨contents, file⟩ := Option.ne_none_iff_exists'.1 file
      have found := file?_eq_some_iff.1 file
      cases rel with
      | nil => exact absurd rfl filled
      | cons name rest =>
        by_cases last : rest = []
        · subst last
          exact ⟨(name, .file contents), mem_children.2 found, by simp [Entry.isFolder]⟩
        · have folder := find?_above (p := p ++ [name]) (by rw [found]; simp) ⟨rest, by simp⟩
            (by simpa using Ne.symm last)
          refine ⟨(name, .folder), mem_children.2 folder, ?_⟩
          have deeper : p ++ name :: rest ∈ d.walk fuel (p ++ [name]) :=
            ih.2 ⟨rest, last, Nat.le_of_succ_le_succ short, by simp, by simp [file]⟩
          simpa [Entry.isFolder] using deeper

-- The places on the way to an entry are entries themselves, each at another depth.
theorem length_le_entries {q : Path} (found : d.find? q ≠ none) : q.length ≤ d.entries.length := by
  have apart : (ancestry q).Nodup := by
    apply List.Nodup.of_map List.length
    have depths : (ancestry q).map List.length = (List.range q.length).map (· + 1) := by
      rw [ancestry, List.map_map]
      apply List.map_congr_left
      intro n bound
      have below := List.mem_range.1 bound
      simp only [Function.comp_apply, List.length_take]
      omega
    rw [depths]
    exact List.nodup_range.map fun a b same => Nat.succ.inj same
  have kept : ancestry q ⊆ d.entries.map Prod.fst := by
    intro r inside
    obtain ⟨before, filled⟩ := mem_ancestry.1 inside
    have there : d.find? r ≠ none := by
      by_cases last : r = q
      · rwa [last]
      · rw [find?_above found before last]
        simp
    obtain ⟨e, there⟩ := Option.ne_none_iff_exists'.1 there
    exact List.mem_map_of_mem (mem_entries_iff.2 ⟨filled, there⟩)
  have bound := apart.length_le_of_subset kept
  simpa [ancestry] using bound

theorem find?_of_list {p : Path} {children : List (String × Entry)} (listed : d.list p = .ok children) :
    d.find? p.bare = some .folder := by
  unfold list at listed
  cases here : d.at? p with
  | none => simp [here] at listed
  | some e =>
    cases e with
    | file contents => simp [here] at listed
    | folder =>
      unfold at? at here
      by_cases marked : p.isMarked = true
      · rw [if_pos marked] at here
        split at here
        · rename_i folder
          exact isFolder_iff.1 folder
        · cases here
      · rw [if_neg marked] at here
        rwa [Path.bare, if_neg marked]

theorem at?_of_find? {p : Path} (there : d.find? p.bare = some .folder) : d.at? p = some .folder := by
  unfold at?
  by_cases marked : p.isMarked = true
  · rw [if_pos marked, if_pos (isFolder_iff.2 there)]
  · rw [Path.bare, if_neg marked] at there
    rw [if_neg marked, there]

theorem list_of_find? {p : Path} (there : d.find? p.bare = some .folder) :
    d.list p = .ok (d.children p.bare) := by
  rw [list, at?_of_find? there]

theorem has_of_list {p : Path} {children : List (String × Entry)} (listed : d.list p = .ok children) :
    d.has p = true := by
  unfold list at listed
  unfold has
  cases here : d.at? p with
  | none => simp [here] at listed
  | some e => rfl

theorem mem_of_listFiles {folder : Path} {files : List String} (listed : d.listFiles folder = .ok files) :
    d.find? folder.bare = some .folder ∧ ∀ f, f ∈ files ↔ d.file? (folder.bare ++ [f]) ≠ none := by
  unfold listFiles at listed
  cases inside : d.list folder with
  | error x =>
    rw [inside] at listed
    cases listed
  | ok children =>
    have there := find?_of_list inside
    have same := list_of_find? there
    rw [inside] at listed same
    cases same
    cases listed
    refine ⟨there, fun f => ?_⟩
    rw [Text.mem_sorted, fileNames, List.mem_map]
    constructor
    · rintro ⟨⟨name, e⟩, child, rfl⟩
      obtain ⟨child, file⟩ := List.mem_filter.1 child
      cases e with
      | file contents => simp [file?_eq_some_iff.2 (mem_children.1 child)]
      | folder => cases file
    · intro file
      obtain ⟨contents, file⟩ := Option.ne_none_iff_exists'.1 file
      have child := mem_children.2 (file?_eq_some_iff.1 file)
      exact ⟨(f, .file contents), List.mem_filter.2 ⟨child, rfl⟩, rfl⟩

theorem has_of_listFiles {folder : Path} {files : List String} (listed : d.listFiles folder = .ok files) :
    d.has folder = true :=
  has_of_list (list_of_find? (mem_of_listFiles listed).1)

theorem listFilesRecursive_ok_iff {folder : Path} {files : List String} :
    d.listFilesRecursive folder = .ok files ↔
      d.find? folder.bare = some .folder ∧
        Text.sorted ((d.walk (d.entries.length + 1) folder.bare).map (Path.relativeText folder)) = files := by
  unfold listFilesRecursive
  cases listed : d.list folder with
  | error x =>
    refine ⟨(by intro h; cases h), fun h => ?_⟩
    rw [list_of_find? h.1] at listed
    cases listed
  | ok children =>
    refine ⟨fun h => ⟨find?_of_list listed, ?_⟩, fun h => ?_⟩
    · exact Except.ok.inj h
    · exact congrArg Except.ok h.2

theorem mem_of_listFilesRecursive {folder : Path} {files : List String}
    (listed : d.listFilesRecursive folder = .ok files) {f : String} :
    f ∈ files ↔ ∃ rel, rel ≠ [] ∧ d.file? (folder.bare ++ rel) ≠ none ∧ f = Text.joined "/" rel := by
  obtain ⟨_, rfl⟩ := listFilesRecursive_ok_iff.1 listed
  have named {rel : Path} (file : d.file? (folder.bare ++ rel) ≠ none) :
      Path.relativeText folder (folder.bare ++ rel) = Text.joined "/" rel := by
    rw [Path.relativeText, (isPlain_of_file? file).bare, Path.relative_append]
  rw [Text.mem_sorted, List.mem_map]
  constructor
  · rintro ⟨q, inside, rfl⟩
    obtain ⟨rel, filled, _, rfl, file⟩ := mem_walk.1 inside
    exact ⟨rel, filled, file, named file⟩
  · rintro ⟨rel, filled, file, rfl⟩
    refine ⟨folder.bare ++ rel, mem_walk.2 ⟨rel, filled, ?_, rfl, file⟩, named file⟩
    have bound := length_le_entries (found_of_file? file)
    rw [List.length_append] at bound
    omega

theorem pairwise_children (p : Path) : (d.children p).Pairwise fun a b => a.1 ≠ b.1 := by
  rw [children, List.pairwise_filterMap]
  refine (List.pairwise_map.1 d.nodup).imp ?_
  rintro ⟨q, e⟩ ⟨q', e'⟩ other ⟨name, f⟩ found ⟨name', f'⟩ found' same
  obtain ⟨n, child, made⟩ := Option.map_eq_some_iff.1 found
  obtain ⟨n', child', made'⟩ := Option.map_eq_some_iff.1 found'
  have place {q : Path} {n : String} (child : childName? p q = some n) : q = p ++ [n] := by
    unfold childName? at child
    split at child
    · rename_i last end_
      split at child
      · rename_i parent
        rw [← parent, ← Option.some.inj child]
        exact (List.dropLast_append_getLast? _ end_).symm
      · cases child
    · cases child
  have name : n = n' := (congrArg Prod.fst made).trans (same.trans (congrArg Prod.fst made').symm)
  exact other (by rw [place child, place child', name])

theorem nodup_fileNames (p : Path) : (fileNames (d.children p)).Nodup :=
  List.pairwise_map.2 ((pairwise_children p).sublist List.filter_sublist)

theorem listFiles_eq {folder : Path} {files : List String} (listed : d.listFiles folder = .ok files) :
    files = Text.sorted (fileNames (d.children folder.bare)) := by
  unfold listFiles at listed
  rw [list_of_find? (mem_of_listFiles listed).1] at listed
  exact (Except.ok.inj listed).symm

theorem nodup_of_listFiles {folder : Path} {files : List String} (listed : d.listFiles folder = .ok files) :
    files.Nodup := by
  rw [listFiles_eq listed]
  exact (Text.sorted_perm _).nodup_iff.2 (nodup_fileNames _)

theorem listFiles_of_single {folder : Path} {file : String} (there : d.find? folder.bare = some .folder)
    (alone : fileNames (d.children folder.bare) = [file]) : d.listFiles folder = .ok [file] := by
  rw [listFiles, list_of_find? there]
  change Except.ok (Text.sorted (fileNames (d.children folder.bare))) = _
  simp [alone, Text.sorted]

-- A listing shows nothing but the names of the files.
theorem listFiles_congr {d' : Disk} {folder : Path} {files : List String} (listed : d.listFiles folder = .ok files)
    (there : d'.find? folder.bare = some .folder)
    (same : ∀ f, d'.file? (folder.bare ++ [f]) ≠ none ↔ d.file? (folder.bare ++ [f]) ≠ none) :
    d'.listFiles folder = .ok files := by
  have listed' : d'.listFiles folder = .ok (Text.sorted (fileNames (d'.children folder.bare))) := by
    rw [listFiles, list_of_find? there]
    rfl
  have members (f : String) : f ∈ Text.sorted (fileNames (d'.children folder.bare)) ↔ f ∈ files := by
    rw [(mem_of_listFiles listed').2, same, (mem_of_listFiles listed).2]
  rw [listed', Text.eq_of_mem_iff (nodup_of_listFiles listed') (nodup_of_listFiles listed) (Text.pairwise_sorted _)
    (listFiles_eq listed ▸ Text.pairwise_sorted _) members]

-- Writing a file anew does not show in a listing.
theorem listFiles_put {folder p : Path} {files : List String} {old new : ByteArray} (fits : d.takes p = true)
    (file : d.find? p = some (.file old)) (listed : d.listFiles folder = .ok files) :
    (d.put p (.file new)).listFiles folder = .ok files := by
  have there := (mem_of_listFiles listed).1
  have other : folder.bare ≠ p := by
    rintro rfl
    rw [file] at there
    cases there
  refine listFiles_congr listed (by rw [find?_put fits, if_neg other, there]) fun f => ?_
  by_cases here : folder.bare ++ [f] = p
  · simp [Disk.file?, find?_put fits, here, file]
  · simp [Disk.file?, find?_put fits, here]

theorem nodup_walk (fuel : Nat) (p : Path) : (d.walk fuel p).Nodup := by
  induction fuel generalizing p with
  | zero => exact List.nodup_nil
  | succ fuel ih =>
    have below {child : String × Entry} {q : Path}
        (inside : q ∈ if child.2.isFolder then d.walk fuel (p ++ [child.1]) else [p ++ [child.1]]) :
        p ++ [child.1] <+: q := by
      split at inside
      · obtain ⟨rel, _, _, rfl, _⟩ := mem_walk.1 inside
        exact List.prefix_append _ _
      · exact List.mem_singleton.1 inside ▸ List.prefix_rfl
    rw [walk, List.nodup_flatMap]
    refine ⟨fun child _ => ?_, (pairwise_children p).imp fun other q inside inside' => other ?_⟩
    · split
      · exact ih _
      · exact List.nodup_singleton _
    · have same := List.prefix_of_prefix_length_le (below inside) (below inside') (by simp)
      have equal := same.eq_of_length (by simp)
      exact (List.cons.inj (List.append_cancel_left equal)).1

theorem nodup_listFilesRecursive {folder : Path} {files : List String}
    (listed : d.listFilesRecursive folder = .ok files) : files.Nodup := by
  obtain ⟨_, rfl⟩ := listFilesRecursive_ok_iff.1 listed
  refine (Text.sorted_perm _).nodup_iff.2 ((nodup_walk _ _).map_on ?_)
  intro q inside q' inside' same
  obtain ⟨rel, filled, _, rfl, file⟩ := mem_walk.1 inside
  obtain ⟨rel', filled', _, rfl, file'⟩ := mem_walk.1 inside'
  have plain := isPlain_of_file? file
  have plain' := isPlain_of_file? file'
  rw [Path.relativeText, Path.relativeText, plain.bare, plain'.bare, Path.relative_append,
    Path.relative_append] at same
  rw [← Path.segments_joined_of_isPlain filled plain.right, same,
    Path.segments_joined_of_isPlain filled' plain'.right]

-- A search for wheels finds what a walk passes, but for the names.
theorem walkWheels_perm (fuel : Nat) (p : Path) :
    (d.walkWheels fuel p).Perm ((d.walk fuel p).filter fun q => isWheelName (q.getLastD "")) := by
  induction fuel generalizing p with
  | zero => exact List.Perm.refl []
  | succ fuel ih =>
    rw [walkWheels, walk, List.filter_flatMap]
    refine (List.mergeSort_perm _ _).trans (List.Perm.flatMap_left _ ?_)
    rintro ⟨name, e⟩ _
    cases e with
    | folder => exact ih (p ++ [name])
    | file contents =>
      by_cases wheel : isWheelName name = true <;> simp [Entry.isFolder, wheel]

theorem findWheels_ok_iff {folder : Path} {wheels : List Path} : d.findWheels folder = .ok wheels ↔
    d.find? folder.bare = some .folder ∧ d.walkWheels (d.entries.length + 1) folder.bare = wheels := by
  unfold findWheels
  cases listed : d.list folder with
  | error x =>
    refine ⟨(by intro h; cases h), fun h => ?_⟩
    rw [list_of_find? h.1] at listed
    cases listed
  | ok children => exact ⟨fun h => ⟨find?_of_list listed, Except.ok.inj h⟩, fun h => congrArg Except.ok h.2⟩

theorem mem_of_findWheels {folder : Path} {wheels : List Path} (found : d.findWheels folder = .ok wheels) {q : Path} :
    q ∈ wheels ↔ ∃ rel, rel ≠ [] ∧ q = folder.bare ++ rel ∧ d.file? q ≠ none ∧ isWheelName (q.getLastD "") = true := by
  obtain ⟨_, rfl⟩ := findWheels_ok_iff.1 found
  rw [(walkWheels_perm _ _).mem_iff, List.mem_filter, mem_walk]
  constructor
  · rintro ⟨⟨rel, filled, _, same, file⟩, named⟩
    exact ⟨rel, filled, same, file, named⟩
  · rintro ⟨rel, filled, rfl, file, named⟩
    have bound := length_le_entries (found_of_file? file)
    rw [List.length_append] at bound
    exact ⟨⟨rel, filled, by omega, rfl, file⟩, named⟩

theorem nodup_of_findWheels {folder : Path} {wheels : List Path} (found : d.findWheels folder = .ok wheels) :
    wheels.Nodup := by
  obtain ⟨_, rfl⟩ := findWheels_ok_iff.1 found
  exact (walkWheels_perm _ _).nodup_iff.2 ((nodup_walk _ _).filter _)

theorem pairwise_of_findWheels {folder : Path} {wheels : List Path} (found : d.findWheels folder = .ok wheels) :
    wheels.Pairwise fun a b => pathPrecedes a b = true := by
  obtain ⟨_, rfl⟩ := findWheels_ok_iff.1 found
  rw [walkWheels]
  exact List.pairwise_mergeSort (fun a b c => Text.unitsLe_trans (a := a.text.toList) (b := b.text.toList)
    (c := c.text.toList)) (fun a b => Text.unitsLe_total a.text.toList b.text.toList) _

end Wheelhouse.Disk
