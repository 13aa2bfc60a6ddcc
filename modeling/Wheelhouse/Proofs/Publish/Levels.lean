import Mathlib.Data.List.Forall2
import Mathlib.Data.List.Nodup
import Mathlib.Data.List.Perm.Basic
import Wheelhouse.Proofs.Publish.Order

/-!
Levels of files. One pass over the files puts each at the end of the level of its depth, and the levels are
then taken from the deepest on: this gives the groups of a plan. No file is lost or doubled on the way, and
the files of a level stay in order.
-/

set_option autoImplicit false

namespace Wheelhouse.Publish

/-- Files under their depths, in the order in which the depths are met. -/
abbrev Levels := List (Nat × List String)

namespace Levels

def add : Levels → String → Levels
  | [], file => [(depth file, [file])]
  | (n, level) :: rest, file =>
    if n = depth file then (n, level ++ [file]) :: rest else (n, level) :: add rest file

def collect (files : List String) : Levels := files.foldl add []

def deepestFirst (levels : Levels) : Levels := levels.mergeSort fun a b => b.1 ≤ a.1

variable {levels : Levels} {files : List String} {file : String}

theorem add_cases (levels : Levels) (file : String) :
    (∃ before level after, levels = before ++ (depth file, level) :: after ∧
      levels.add file = before ++ (depth file, level ++ [file]) :: after) ∨
    (depth file ∉ levels.map Prod.fst ∧ levels.add file = levels ++ [(depth file, [file])]) := by
  induction levels with
  | nil => simp [add]
  | cons first rest ih =>
    obtain ⟨n, level⟩ := first
    by_cases same : n = depth file
    next =>
      subst same
      exact .inl ⟨[], level, rest, rfl, by simp [add]⟩
    next =>
      rcases ih with ⟨before, found, after, whole, added⟩ | ⟨fresh, added⟩
      · exact .inl ⟨(n, level) :: before, found, after, by simp [whole], by simp [add, same, added]⟩
      · exact .inr ⟨by simpa [Ne.symm same] using fresh, by simp [add, same, added]⟩

/-- What holds of the levels once some files have been put into them. -/
structure Holds (levels : Levels) (files : List String) : Prop where
  apart : (levels.map Prod.fst).Nodup
  filled : ∀ entry ∈ levels, entry.2 ≠ []
  contents : ∀ entry ∈ levels, entry.2 = files.filter fun f => depth f = entry.1
  whole : (levels.flatMap Prod.snd).Perm files

theorem Holds.depth_mem (holds : levels.Holds files) (inside : file ∈ files) : depth file ∈ levels.map Prod.fst := by
  obtain ⟨entry, found, member⟩ := List.mem_flatMap.1 (holds.whole.mem_iff.2 inside)
  rw [holds.contents entry found] at member
  have same : depth file = entry.1 := by simpa using (List.mem_filter.1 member).2
  exact same ▸ List.mem_map_of_mem found

-- A level of another depth does not see a file that comes later.
theorem Holds.contents_of_ne (holds : levels.Holds files) {entry : Nat × List String} (inside : entry ∈ levels)
    (differs : entry.1 ≠ depth file) : entry.2 = (files ++ [file]).filter fun f => depth f = entry.1 := by
  simpa [List.filter_append, Ne.symm differs] using holds.contents entry inside

theorem Holds.add_fresh (holds : levels.Holds files) (fresh : depth file ∉ levels.map Prod.fst) :
    (levels ++ [(depth file, [file])]).Holds (files ++ [file]) where
  apart := by
    rw [List.map_append]
    exact holds.apart.append (List.nodup_singleton _) (by simpa using fresh)
  filled := by
    intro entry inside
    rcases List.mem_append.1 inside with old | new
    · exact holds.filled entry old
    · simp [List.mem_singleton.1 new]
  contents := by
    intro entry inside
    rcases List.mem_append.1 inside with old | new
    · exact holds.contents_of_ne old fun same => fresh (same ▸ List.mem_map_of_mem old)
    · have none : files.filter (fun f => depth f = depth file) = [] := by
        rw [List.filter_eq_nil_iff]
        intro f member
        have known := holds.depth_mem member
        simp only [decide_eq_true_eq]
        exact fun same => fresh (same ▸ known)
      simp [List.mem_singleton.1 new, List.filter_append, none]
  whole := by simpa using holds.whole.append_right [file]

theorem Holds.add_known {before after : Levels} {level : List String}
    (holds : Holds (before ++ (depth file, level) :: after) files) :
    Holds (before ++ (depth file, level ++ [file]) :: after) (files ++ [file]) := by
  have others : ∀ entry ∈ before ++ after, entry.1 ≠ depth file := by
    have apart := holds.apart
    rw [List.map_append, List.map_cons, List.nodup_middle, List.nodup_cons, ← List.map_append] at apart
    intro entry inside same
    have known := List.mem_map_of_mem (f := Prod.fst) inside
    rw [same] at known
    exact apart.1 known
  have cases {entry : Nat × List String} (inside : entry ∈ before ++ (depth file, level ++ [file]) :: after) :
      entry = (depth file, level ++ [file]) ∨ entry ∈ before ++ after :=
    List.mem_cons.1 (List.perm_middle.mem_iff.1 inside)
  have old {entry : Nat × List String} (inside : entry ∈ before ++ after) :
      entry ∈ before ++ (depth file, level) :: after :=
    List.perm_middle.mem_iff.2 (List.mem_cons_of_mem _ inside)
  constructor
  case apart => simpa using holds.apart
  case filled =>
    intro entry inside
    rcases cases inside with rfl | other
    · simp
    · exact holds.filled entry (old other)
  case contents =>
    intro entry inside
    rcases cases inside with rfl | other
    · have same := holds.contents (depth file, level) (by simp)
      simp [List.filter_append, ← same]
    · exact holds.contents_of_ne (old other) (others entry other)
  case whole =>
    have moved : (before.flatMap Prod.snd ++ (level ++ [file] ++ after.flatMap Prod.snd)).Perm
        (before.flatMap Prod.snd ++ (level ++ after.flatMap Prod.snd) ++ [file]) := by
      have last : ([file] ++ after.flatMap Prod.snd).Perm (after.flatMap Prod.snd ++ [file]) := List.perm_append_comm
      rw [List.append_assoc, List.append_assoc, List.append_assoc]
      exact (last.append_left level).append_left _
    simpa using moved.trans (by simpa using holds.whole.append_right [file])

theorem Holds.add (holds : levels.Holds files) (file : String) : (levels.add file).Holds (files ++ [file]) := by
  rcases add_cases levels file with ⟨before, level, after, rfl, added⟩ | ⟨fresh, added⟩
  · exact added ▸ holds.add_known
  · exact added ▸ holds.add_fresh fresh

theorem holds_collect (files : List String) : (collect files).Holds files := by
  have later (before rest : List String) (levels : Levels) (holds : levels.Holds before) :
      (rest.foldl Levels.add levels).Holds (before ++ rest) := by
    induction rest generalizing before levels with
    | nil => simpa using holds
    | cons file rest ih => simpa using ih (before ++ [file]) (levels.add file) (holds.add file)
  exact later [] files [] ⟨by simp, by simp, by simp, by simp⟩

theorem Holds.perm {levels' : Levels} (holds : levels.Holds files) (same : levels'.Perm levels) : levels'.Holds files where
  apart := (same.map _).nodup_iff.2 holds.apart
  filled := fun entry inside => holds.filled entry (same.mem_iff.1 inside)
  contents := fun entry inside => holds.contents entry (same.mem_iff.1 inside)
  whole := (same.flatMap_right _).trans holds.whole

theorem deepestFirst_perm (levels : Levels) : levels.deepestFirst.Perm levels := List.mergeSort_perm _ _

theorem pairwise_deepestFirst (apart : (levels.map Prod.fst).Nodup) :
    (levels.deepestFirst.map Prod.fst).Pairwise (· > ·) := by
  have sorted := @List.pairwise_mergeSort (Nat × List String) (fun a b => decide (b.1 ≤ a.1))
    (fun a b c hab hbc => by simp only [decide_eq_true_eq] at *; omega)
    (fun a b => by simp only [Bool.or_eq_true, decide_eq_true_eq]; omega) levels
  have nodup := ((deepestFirst_perm levels).map Prod.fst).nodup_iff.2 apart
  rw [List.pairwise_map]
  refine (sorted.and (List.pairwise_map.1 nodup)).imp ?_
  intro a b h
  have le : b.1 ≤ a.1 := of_decide_eq_true h.1
  omega

end Levels

open Levels

-- The groups of a plan are what one pass over the files collects.
theorem byDepth_eq (files : List String) : byDepth files = (collect files).deepestFirst.map Prod.snd := by
  have holds := (holds_collect files).perm (deepestFirst_perm _)
  have order := pairwise_deepestFirst (holds_collect files).apart
  have keys : (collect files).deepestFirst.map Prod.fst = depths files := by
    have nodup : (depths files).Nodup := (depths_decreasing files).imp fun h => Nat.ne_of_gt h
    have same : ((collect files).deepestFirst.map Prod.fst).Perm (depths files) := by
      rw [List.perm_ext_iff_of_nodup holds.apart nodup]
      intro n
      rw [mem_depths]
      constructor
      · intro inside
        obtain ⟨entry, found, rfl⟩ := List.mem_map.1 inside
        obtain ⟨f, rest, member⟩ := List.exists_cons_of_ne_nil (holds.filled entry found)
        have kept : f ∈ entry.2 := by simp [member]
        rw [holds.contents entry found, List.mem_filter, decide_eq_true_eq] at kept
        exact ⟨f, kept⟩
      · rintro ⟨f, inside, rfl⟩
        exact holds.depth_mem inside
    exact same.eq_of_pairwise (fun a b _ _ before after => absurd before (Nat.lt_asymm after)) order
      (depths_decreasing files)
  rw [byDepth, ← keys, List.map_map]
  exact List.map_congr_left fun entry inside => (holds.contents entry inside).symm

/-- However files are listed, their groups hold each of them once, every group has files of one depth in the
order in which they are listed, and the depths decrease from group to group. -/
theorem byDepth_stable_grouping (files : List String) :
    (byDepth files).flatten.Perm files ∧
    ∃ ns : List Nat, ns.Pairwise (· > ·) ∧
      List.Forall₂ (fun n group => group ≠ [] ∧ (∀ f ∈ group, f.toList.count '/' = n) ∧ group.Sublist files)
        ns (byDepth files) := by
  have holds := (holds_collect files).perm (deepestFirst_perm _)
  rw [byDepth_eq]
  refine ⟨?_, (collect files).deepestFirst.map Prod.fst, pairwise_deepestFirst (holds_collect files).apart, ?_⟩
  · simpa [List.flatMap] using holds.whole
  · rw [List.forall₂_map_left_iff, List.forall₂_map_right_iff, List.forall₂_same]
    intro entry inside
    have contents := holds.contents entry inside
    refine ⟨holds.filled entry inside, ?_, contents ▸ List.filter_sublist⟩
    intro f member
    rw [contents, List.mem_filter] at member
    exact of_decide_eq_true member.2

end Wheelhouse.Publish
