import Mathlib.Data.List.Nodup
import Mathlib.Tactic.SplitIfs
import Wheelhouse.Proofs.Package.Archive
import Wheelhouse.Proofs.Pin.RequirementFile

/-!
The candidates that are selected from the files of a folder: at most one for each package, and with names
and versions that can be written into a requirement file.
-/

set_option autoImplicit false

namespace Wheelhouse

namespace Candidate

-- Each package has one group, which has candidates of that package only.
structure AreGrouped (groups : List (String × List Candidate)) (cs : List Candidate) : Prop where
  distinct : (groups.map Prod.fst).Nodup
  members : ∀ g ∈ groups, ∀ c ∈ g.2, c.normalizedName = g.1 ∧ c ∈ cs

variable {groups : List (String × List Candidate)} {cs : List Candidate} {c : Candidate}

theorem mem_names_gather {name : String} :
    name ∈ (gather groups c).map Prod.fst ↔ name ∈ groups.map Prod.fst ∨ name = c.normalizedName := by
  induction groups with
  | nil => simp [gather]
  | cons g rest ih =>
    by_cases here : g.1 = c.normalizedName
    · simp only [gather, if_pos here, List.map_cons, List.mem_cons]
      grind
    · simp only [gather, if_neg here, List.map_cons, List.mem_cons, ih]
      exact or_assoc.symm

theorem areGrouped_gather (grouped : AreGrouped groups cs) (c : Candidate) :
    AreGrouped (gather groups c) (cs ++ [c]) := by
  constructor
  · have distinct := grouped.distinct
    clear grouped
    induction groups with
    | nil => simp [gather]
    | cons g rest ih =>
      obtain ⟨fresh, distinct⟩ := List.nodup_cons.1 distinct
      by_cases here : g.1 = c.normalizedName
      · simp only [gather, if_pos here, List.map_cons, List.nodup_cons]
        exact ⟨fresh, distinct⟩
      · simp only [gather, if_neg here, List.map_cons, List.nodup_cons, mem_names_gather, not_or]
        exact ⟨⟨fresh, here⟩, ih distinct⟩
  · have members := grouped.members
    clear grouped
    induction groups with
    | nil => simp [gather]
    | cons g rest ih =>
      have first := members g (by simp)
      have later := fun g' inside => members g' (List.mem_cons_of_mem _ inside)
      by_cases here : g.1 = c.normalizedName
      · simp only [gather, if_pos here, List.mem_cons]
        rintro g' (rfl | inside) d member
        · grind
        · have known := later g' inside d member
          grind
      · simp only [gather, if_neg here, List.mem_cons]
        rintro g' (rfl | inside) d member
        · have known := first d member
          grind
        · exact ih later g' inside d member

theorem areGrouped_foldl (grouped : AreGrouped groups cs) (later : List Candidate) :
    AreGrouped (later.foldl gather groups) (cs ++ later) := by
  induction later generalizing groups cs with
  | nil => simpa using grouped
  | cons c later ih => simpa using ih (areGrouped_gather grouped c)

theorem areGrouped_groups (cs : List Candidate) : AreGrouped (Candidate.groups cs) cs := by
  have start : AreGrouped [] [] := ⟨List.nodup_nil, by simp⟩
  exact areGrouped_foldl start cs

theorem mem_of_chosen {group : List Candidate} (found : chosen group = some c) : c ∈ group := by
  cases group with
  | nil => cases found
  | cons first rest =>
    have best := Option.some.inj found
    simp only [highest] at best
    subst best
    cases picked : (first :: rest).find? fun d =>
        d.version = (Version.highest? ((first :: rest).map (·.version))).getD first.version with
    | none => simp
    | some d => simpa using List.mem_of_find?_eq_some picked

end Candidate

namespace Mapping

variable {mapping : Mapping} {filename : String} {e : MappingEntry}

theorem of_better {best : Option MappingEntry} {first : MappingEntry} (found : better filename best first = some e) :
    e = first ∨ best = some e := by
  unfold better at found
  split_ifs at found
  · cases best with
    | none => exact .inl (Option.some.inj found).symm
    | some b =>
      simp only at found
      split_ifs at found
      · exact .inl (Option.some.inj found).symm
      · exact .inr found
  · exact .inr found

theorem mem_of_foldl_better {best : Option MappingEntry} (found : mapping.foldl (better filename) best = some e) :
    e ∈ mapping ∨ best = some e := by
  induction mapping generalizing best with
  | nil => exact .inr found
  | cons first rest ih =>
    rcases ih found with inside | kept
    · exact .inl (List.mem_cons_of_mem _ inside)
    · exact (of_better kept).imp_left fun same => by simp [same]

theorem mem_of_longest? (found : mapping.longest? filename = some e) : e ∈ mapping :=
  (mem_of_foldl_better found).resolve_right (by simp)

end Mapping

namespace Selection

variable {mapping : Mapping}

theorem isWritten_of_contribution {filename : String} {c : Candidate}
    (named : ∀ e ∈ mapping, PackageName.isName e.name = true)
    (contributed : contribution? mapping filename = some c) : RequirementFile.IsWritten c := by
  unfold contribution? Candidate.classify at contributed
  cases found : mapping.longest? filename with
  | none => simp [found] at contributed
  | some e =>
    simp only [found] at contributed
    cases parsed : Archive.parse filename with
    | error fault => split at contributed <;> grind
    | ok a =>
      have name := named e (Mapping.mem_of_longest? found)
      have version := (Archive.isOf_of_parse parsed).2.2
      split at contributed <;> grind [RequirementFile.IsWritten]

theorem distinct_candidates (mapping : Mapping) (filenames : List String) :
    (ofFiles mapping filenames).candidates.Pairwise fun a b => a.normalizedName ≠ b.normalizedName := by
  have grouped := Candidate.areGrouped_groups (filenames.filterMap (contribution? mapping))
  rw [ofFiles, List.Perm.pairwise_iff (fun other => Ne.symm other) (List.mergeSort_perm _ _), List.pairwise_filterMap]
  refine (List.pairwise_map.1 grouped.distinct).imp_of_mem ?_
  intro g g' inside inside' other c chosen c' chosen' same
  have name := (grouped.members g inside c (Candidate.mem_of_chosen chosen)).1
  have name' := (grouped.members g' inside' c' (Candidate.mem_of_chosen chosen')).1
  exact other (name.symm.trans (same.trans name'))

theorem isWritten_candidates (named : ∀ e ∈ mapping, PackageName.isName e.name = true) (filenames : List String) :
    ∀ c ∈ (ofFiles mapping filenames).candidates, RequirementFile.IsWritten c := by
  intro c inside
  rw [ofFiles, List.mem_mergeSort, List.mem_filterMap] at inside
  obtain ⟨g, member, chosen⟩ := inside
  have grouped := Candidate.areGrouped_groups (filenames.filterMap (contribution? mapping))
  have known := (grouped.members g member c (Candidate.mem_of_chosen chosen)).2
  obtain ⟨filename, _, contributed⟩ := List.mem_filterMap.1 known
  exact isWritten_of_contribution named contributed

end Selection

end Wheelhouse
