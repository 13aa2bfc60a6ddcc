import Mathlib.Data.List.Nodup
import Wheelhouse.Proofs.Package.Archive
import Wheelhouse.Site.Index

/-!
The packages of an index. Every archive among the file names belongs to one package, the one that has its
name, and no two packages have the same name.
-/

set_option autoImplicit false

namespace Wheelhouse

namespace Text

theorem lower_ne_nil {cs : List Char} (filled : cs ≠ []) : lower cs ≠ [] := by
  obtain ⟨c, rest, rfl⟩ := List.exists_cons_of_ne_nil filled
  unfold lower
  split
  · simp
  · unfold lowerFrom
    simp only
    split
    · simp
    · split <;> simp

end Text

namespace PackageName

theorem normalize_ne_empty {name : String} (filled : name ≠ "") : normalize name ≠ "" := by
  have lower := Text.lower_ne_nil (show name.toList ≠ [] by simpa using filled)
  obtain ⟨c, rest, same⟩ := List.exists_cons_of_ne_nil lower
  have collapsed : collapse (Text.lower name.toList) ≠ [] := by
    rw [same, collapse]
    split
    · split <;> simp
    · simp
  simpa [normalize] using collapsed

end PackageName

namespace Index

-- An archive is listed in the package of a name.
def IsListed (groups : List (String × List Archive)) (name : String) (a : Archive) : Prop :=
  ∃ members, (name, members) ∈ groups ∧ a ∈ members

variable {groups : List (String × List Archive)} {name : String} {a b : Archive}

theorem mem_names_gather : name ∈ (gather groups a).map Prod.fst ↔
    name ∈ groups.map Prod.fst ∨ name = a.normalizedName := by
  induction groups with
  | nil => simp [gather]
  | cons g rest ih =>
    obtain ⟨n, members⟩ := g
    unfold gather
    split
    · rename_i same
      subst same
      simp only [List.map_cons, List.mem_cons]
      constructor
      · exact .inl
      · rintro (inside | rfl)
        · exact inside
        · exact .inl rfl
    · rw [List.map_cons, List.mem_cons, ih, List.map_cons, List.mem_cons, or_assoc]

theorem nodup_gather (apart : (groups.map Prod.fst).Nodup) : ((gather groups a).map Prod.fst).Nodup := by
  induction groups with
  | nil => simp [gather]
  | cons g rest ih =>
    obtain ⟨n, members⟩ := g
    rw [List.map_cons, List.nodup_cons] at apart
    unfold gather
    split
    · rw [List.map_cons, List.nodup_cons]
      exact apart
    · rename_i other
      rw [List.map_cons, List.nodup_cons, mem_names_gather, not_or]
      exact ⟨⟨apart.1, other⟩, ih apart.2⟩

theorem isListed_cons {n : String} {members : List Archive} : IsListed ((n, members) :: groups) name b ↔
    (name = n ∧ b ∈ members) ∨ IsListed groups name b := by
  unfold IsListed
  constructor
  · rintro ⟨found, inside, member⟩
    rcases List.mem_cons.1 inside with same | inside
    · cases same
      exact .inl ⟨rfl, member⟩
    · exact .inr ⟨found, inside, member⟩
  · rintro (⟨rfl, member⟩ | ⟨found, inside, member⟩)
    · exact ⟨members, List.mem_cons_self, member⟩
    · exact ⟨found, List.mem_cons_of_mem _ inside, member⟩

theorem isListed_gather : IsListed (gather groups a) name b ↔
    IsListed groups name b ∨ (b = a ∧ name = a.normalizedName) := by
  induction groups with
  | nil =>
    rw [gather, isListed_cons]
    simp [IsListed, and_comm]
  | cons g rest ih =>
    obtain ⟨n, members⟩ := g
    unfold gather
    split
    · rename_i same
      rw [isListed_cons, isListed_cons, List.mem_append, List.mem_singleton, ← same]
      constructor
      · rintro (⟨rfl, old | new⟩ | below)
        · exact .inl (.inl ⟨rfl, old⟩)
        · exact .inr ⟨new, rfl⟩
        · exact .inl (.inr below)
      · rintro ((⟨rfl, old⟩ | below) | ⟨new, rfl⟩)
        · exact .inl ⟨rfl, .inl old⟩
        · exact .inr below
        · exact .inl ⟨rfl, .inr new⟩
    · rw [isListed_cons, ih, isListed_cons, or_assoc]

theorem nodup_foldl_gather (archives : List Archive) (apart : (groups.map Prod.fst).Nodup) :
    ((archives.foldl gather groups).map Prod.fst).Nodup := by
  induction archives generalizing groups with
  | nil => exact apart
  | cons a rest ih => exact ih (nodup_gather apart)

theorem isListed_foldl_gather (archives : List Archive) : IsListed (archives.foldl gather groups) name b ↔
    IsListed groups name b ∨ (b ∈ archives ∧ name = b.normalizedName) := by
  induction archives generalizing groups with
  | nil => simp
  | cons a rest ih =>
    rw [List.foldl_cons, ih, isListed_gather, List.mem_cons, or_assoc]
    constructor
    · rintro (old | ⟨rfl, same⟩ | ⟨later, same⟩)
      · exact .inl old
      · exact .inr ⟨.inl rfl, same⟩
      · exact .inr ⟨.inr later, same⟩
    · rintro (old | ⟨rfl | later, same⟩)
      · exact .inl old
      · exact .inr (.inl ⟨rfl, same⟩)
      · exact .inr (.inr ⟨later, same⟩)

theorem mem_names_foldl_gather (archives : List Archive) : name ∈ (archives.foldl gather groups).map Prod.fst ↔
    name ∈ groups.map Prod.fst ∨ ∃ a ∈ archives, name = a.normalizedName := by
  induction archives generalizing groups with
  | nil => simp
  | cons a rest ih =>
    rw [List.foldl_cons, ih, mem_names_gather, or_assoc]
    simp only [List.mem_cons, exists_eq_or_imp]

theorem nodup_packages (filenames : List String) : ((packages filenames).map Prod.fst).Nodup := by
  have apart : (((filenames.filterMap Archive.parse?).foldl gather []).map Prod.fst).Nodup :=
    nodup_foldl_gather _ List.nodup_nil
  unfold packages
  rw [List.map_map]
  exact ((List.mergeSort_perm _ _).map _).nodup_iff.2 apart

theorem ne_empty_of_mem_packages {filenames : List String} {members : List Archive}
    (inside : (name, members) ∈ packages filenames) : name ≠ "" := by
  obtain ⟨g, found, same⟩ := List.mem_map.1 inside
  cases same
  have named := List.mem_map_of_mem (f := Prod.fst) ((List.mergeSort_perm _ _).subset found)
  rcases (mem_names_foldl_gather _).1 named with none | ⟨a, archive, same⟩
  · cases none
  · obtain ⟨f, _, parsed⟩ := List.mem_filterMap.1 archive
    rw [same]
    exact PackageName.normalize_ne_empty (Archive.of_parse? parsed).2

-- An archive is listed in the package of its name, and nowhere else.
theorem isListed_packages {filenames : List String} : IsListed (packages filenames) name a ↔
    a ∈ filenames.filterMap Archive.parse? ∧ name = a.normalizedName := by
  have gathered : IsListed ((filenames.filterMap Archive.parse?).foldl gather []) name a ↔ IsListed [] name a ∨ _ :=
    isListed_foldl_gather _
  simp only [IsListed, List.not_mem_nil, false_and, exists_false, false_or] at gathered
  rw [← gathered]
  unfold packages IsListed
  constructor
  · rintro ⟨members, inside, member⟩
    obtain ⟨g, found, same⟩ := List.mem_map.1 inside
    cases same
    exact ⟨g.2, (List.mergeSort_perm _ _).subset found, (List.mergeSort_perm _ _).subset member⟩
  · rintro ⟨members, inside, member⟩
    exact ⟨_, List.mem_map.2 ⟨_, (List.mergeSort_perm _ _).symm.subset inside, rfl⟩,
      (List.mergeSort_perm _ _).symm.subset member⟩

theorem of_mem_packages {filenames : List String} {g : String × List Archive} (inside : g ∈ packages filenames)
    (member : a ∈ g.2) : a.filename ∈ filenames ∧ Archive.parse? a.filename = some a ∧ g.1 = a.normalizedName := by
  obtain ⟨archive, name⟩ := isListed_packages.1 ⟨g.2, inside, member⟩
  obtain ⟨f, listed, parsed⟩ := List.mem_filterMap.1 archive
  have same := (Archive.of_parse? parsed).1
  rw [same]
  exact ⟨listed, parsed, name⟩

theorem filename_ne_pageName {filenames : List String} {g : String × List Archive} (inside : g ∈ packages filenames)
    (member : a ∈ g.2) : a.filename ≠ pageName := by
  intro same
  have parsed := (of_mem_packages inside member).2.1
  rw [same] at parsed
  exact absurd (Archive.hasExtension_of_parse (Archive.parse?_eq_some_iff.1 parsed)) (by decide +kernel)

end Index

end Wheelhouse
