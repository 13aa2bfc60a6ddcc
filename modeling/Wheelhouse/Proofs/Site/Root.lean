import Wheelhouse.Proofs.Disk.Walk
import Wheelhouse.Proofs.Job
import Wheelhouse.Proofs.Text.Units
import Wheelhouse.Site.Index

/-!
The root page of an index. It lists the folders that have a page, each once and in order.
-/

set_option autoImplicit false

namespace Wheelhouse

theorem Text.strictly_sorted {ss : List String} (apart : ss.Nodup) :
    (sorted ss).Pairwise fun a b => strictlyPrecedes a b = true := by
  refine ((pairwise_sorted ss).and ((sorted_perm ss).nodup_iff.2 apart)).imp ?_
  rintro a b ⟨before, other⟩
  exact strictlyPrecedes_of_ne before other

namespace Index

variable {output : Path} {d : Disk} {names : List String} {w : Workspace}

theorem child_of_ne_empty {p : Path} {name : String} (filled : name ≠ "") (next : String) :
    Path.child (p ++ [name]) next = p ++ [name, next] := by
  have unmarked : Path.isMarked (p ++ [name]) = false := by simp [Path.isMarked, filled]
  rw [Path.child_of_unmarked unmarked, List.append_assoc]
  rfl

-- The root page, which leads to folders of variants.
def rootPage (names : List String) : Path × String :=
  ([pageName], Html.page "Simple Index" (names.map Html.folderLink))

theorem has_page {name : String} (filled : name ≠ "") :
    d.has ((output.child name).child pageName) = (d.find? (output.bare ++ [name, pageName])).isSome := by
  have unmarked : Path.isMarked (output.bare ++ [name, pageName]) = false := by simp [Path.isMarked, pageName]
  rw [show output.child name = output.bare ++ [name] from rfl, child_of_ne_empty filled, Disk.has, Disk.at?, unmarked]
  rfl

-- A folder with a page.
def hasPage (d : Disk) (output : Path) (child : String × Entry) : Bool :=
  child.2.isFolder && d.has ((output.child child.1).child pageName)

theorem mem_pages {name : String} : name ∈ ((d.children output.bare).filter (hasPage d output)).map Prod.fst ↔
    d.find? (output.bare ++ [name]) = some .folder ∧ d.find? (output.bare ++ [name, pageName]) ≠ none := by
  have filled {e : Entry} (there : d.find? (output.bare ++ [name]) = some e) : name ≠ "" :=
    (Disk.isPlain_of_find? (by rw [there]; simp) name (by simp)).1
  simp only [List.mem_map, List.mem_filter, hasPage, Bool.and_eq_true]
  constructor
  · rintro ⟨⟨n, e⟩, ⟨child, folder, page⟩, rfl⟩
    have there := Disk.mem_children.1 child
    cases e with
    | file contents => cases folder
    | folder =>
      rw [has_page (filled there)] at page
      exact ⟨there, Option.isSome_iff_ne_none.1 page⟩
  · rintro ⟨there, page⟩
    refine ⟨(name, .folder), ⟨Disk.mem_children.2 there, rfl, ?_⟩, rfl⟩
    rw [has_page (filled there)]
    exact Option.isSome_iff_ne_none.2 page

theorem variants_eq (there : d.find? output.bare = some .folder) :
    variants d output = .ok (Text.sorted (((d.children output.bare).filter (hasPage d output)).map Prod.fst)) := by
  unfold variants
  rw [Disk.list_of_find? there]
  rfl

theorem isFolder_of_variants (listed : variants d output = .ok names) : d.find? output.bare = some .folder := by
  unfold variants at listed
  cases children : d.list output with
  | error x =>
    rw [children] at listed
    cases listed
  | ok found => exact Disk.find?_of_list children

-- The root page lists the folders that have a page, each once and in order.
theorem mem_variants (listed : variants d output = .ok names) :
    names.Pairwise (fun a b => Text.strictlyPrecedes a b = true) ∧
      ∀ name, name ∈ names ↔ d.find? (output.bare ++ [name]) = some .folder ∧
        d.find? (output.bare ++ [name, pageName]) ≠ none := by
  have same := variants_eq (isFolder_of_variants listed)
  rw [listed] at same
  cases same
  refine ⟨Text.strictly_sorted ?_, fun name => Text.mem_sorted.trans mem_pages⟩
  exact List.pairwise_map.2 ((Disk.pairwise_children output.bare).sublist List.filter_sublist)

theorem writeRoot_ok_iff : (∃ w', writeRoot output w = .ok names w' ∧ w'.disk = d) ↔
    variants w.disk output = .ok names ∧
      w.disk.writeFile (output.child pageName) (Text.encode (rootPage names).2) = .ok d := by
  unfold writeRoot
  constructor
  · rintro ⟨w', written, rfl⟩
    obtain ⟨_, v, looked, rest⟩ := Job.bind_ok_iff.1 written
    obtain ⟨listed, rfl⟩ := Job.look_ok_iff.1 looked
    obtain ⟨_, v', put, rest⟩ := Job.bind_ok_iff.1 rest
    cases rest
    obtain ⟨d, text, rfl⟩ := Job.writeText_ok_iff.1 put
    exact ⟨listed, text⟩
  · rintro ⟨listed, text⟩
    refine ⟨{ w with disk := d }, ?_, rfl⟩
    rw [Job.bind_ok (Job.look_ok_iff.2 ⟨listed, rfl⟩)]
    exact Job.bind_ok (Job.writeText_ok_iff.2 ⟨d, text, rfl⟩)

end Index

end Wheelhouse
