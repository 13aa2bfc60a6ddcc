import Wheelhouse.Proofs.Site.Variant

/-!
One run into an output folder that may hold an index already. It rewrites the folder of its variant as it
would be written into an empty folder, leaves those of the other variants alone, and lists on the root
page the folders that have a page.
-/

set_option autoImplicit false

namespace Wheelhouse.Index

open Disk (Alike IsOpen)

variable {wheels output : Path} {options : IndexOptions} {w w' u : Workspace} {result : IndexResult}

/-- A disk that is like another, but with nothing in the output folder, which need not be there. -/
structure IsFresh (output : Path) (d e : Disk) : Prop where
  outside : ∀ q, ¬output.bare <+: q → e.find? q = d.find? q
  empty : ∀ name rest, e.find? (output.bare ++ name :: rest) = none
  noFile : e.file? output.bare = none

-- What a run makes of an output folder.
structure IsRefreshed (output : Path) (variant : String) (d d' : Disk) : Prop where
  folder : d'.find? output.bare = some .folder
  outside : IsRewritten output.bare d d'
  page : d'.find? (output.bare ++ [variant, pageName]) ≠ none
  other : ∀ name rest, name ≠ variant → name :: rest ≠ [pageName] →
    d'.find? (output.bare ++ name :: rest) = d.find? (output.bare ++ name :: rest)
  root : ∃ names, names.Pairwise (fun a b => Text.strictlyPrecedes a b = true) ∧
    (∀ name, name ∈ names ↔ d'.find? (output.bare ++ [name]) = some .folder ∧
      d'.find? (output.bare ++ [name, pageName]) ≠ none) ∧
    d'.find? (output.bare ++ [pageName]) = some (.file (Text.encode (rootPage names).2))

theorem above_child (output : Path) (name : String) : output.bare <+: output.child name := List.prefix_append _ _

theorem child_not_above (output : Path) (name : String) : ¬output.child name <+: output.bare := by
  intro below
  have bound := below.length_le
  rw [Path.child, List.length_append] at bound
  exact Nat.not_succ_le_self _ bound

theorem outside_child (outside : ¬output.bare <+: wheels.bare) (variant f : String) :
    ¬output.child variant <+: wheels.bare ++ [f] := by
  intro below
  rcases List.prefix_concat_iff.1 below with same | below
  · exact outside ((List.append_inj' same rfl).1 ▸ List.prefix_rfl)
  · exact outside ((above_child output variant).trans below)

-- What a run has found and written: the folder of the variant first, then the root page.
theorem run_written (outside : ¬output.bare <+: wheels.bare)
    (generated : run wheels output options w = .ok result w') : ∃ names d,
      IsRewritten (output.child options.variant) w.disk d ∧ d.find? (output.bare ++ [options.variant]) = some .folder ∧
      d.find? (output.bare ++ [options.variant, pageName]) ≠ none ∧ variants d output = .ok names ∧
      d.takes (output.bare ++ [pageName]) = true ∧
      ∀ q, w'.disk.find? q =
        if q = output.bare ++ [pageName] then some (.file (Text.encode (rootPage names).2)) else d.find? q := by
  obtain ⟨proper, filenames, indexed, names, v, v₁, v₂, listed, same, written, root, ended⟩ := run_parts generated
  have filled := ne_empty_of_isVariant proper
  obtain ⟨clear, _, _, _, _, pages⟩ := writeVariant_parts filled written
  obtain ⟨contents, page⟩ := (writePages_page (isMarked_child filled output) pages).2
  obtain ⟨_, _, alike, changed, _⟩ := writeVariant_mirrored filled (fun g inside => ne_empty_of_mem_packages inside)
    ⟨outside_child outside options.variant, fun _ => rfl⟩ clear written
  obtain ⟨found, text⟩ := writeRoot_ok_iff.1 ⟨v₂, root, ended.symm⟩
  obtain ⟨fits, put⟩ := Disk.writeFile_ok text
  have page' : v₁.disk.find? (output.bare ++ [options.variant, pageName]) ≠ none := by
    rw [Path.child, List.append_assoc] at page
    rw [show [options.variant, pageName] = [options.variant] ++ [pageName] from rfl, page]
    simp
  exact ⟨names, v₁.disk, same ▸ changed, alike.folder, page', found, fits, fun q => put ▸ Disk.find?_put fits q⟩

theorem IsRewritten.folder {d d' : Disk} {variant : String} (h : IsRewritten (output.child variant) d d') :
    d'.find? output.bare = some .folder := by
  rw [h _ (child_not_above output variant), if_pos (above_child output variant)]

theorem IsRewritten.other {d d' : Disk} {variant name : String} (h : IsRewritten (output.child variant) d d')
    (other : name ≠ variant) (rest : Path) :
    d'.find? (output.bare ++ name :: rest) = d.find? (output.bare ++ name :: rest) := by
  have outside : ¬output.child variant <+: output.bare ++ name :: rest := by
    intro below
    exact other (List.cons_prefix_cons.1 ((List.prefix_append_right_inj output.bare).1 below)).1.symm
  have notAbove : ¬output.bare ++ name :: rest <+: output.child variant := by
    intro above
    exact other (List.cons_prefix_cons.1 ((List.prefix_append_right_inj output.bare).1 above)).1
  rw [h _ outside, if_neg notAbove]

theorem IsRewritten.above {d d' : Disk} {variant : String} (h : IsRewritten (output.child variant) d d') :
    IsRewritten output.bare d d' := by
  intro q outside
  have step := above_child output variant
  have onWay : q <+: output.child variant ↔ q <+: output.bare := by
    refine ⟨fun before => (List.prefix_concat_iff.1 before).resolve_left ?_, fun before => before.trans step⟩
    rintro rfl
    exact outside step
  rw [h q fun below => outside (step.trans below)]
  simp only [onWay]

theorem run_refreshed (outside : ¬output.bare <+: wheels.bare)
    (generated : run wheels output options w = .ok result w') :
    IsRefreshed output options.variant w.disk w'.disk := by
  obtain ⟨names, d, changed, there, page, listed, fits, left⟩ := run_written outside generated
  obtain ⟨sorted, members⟩ := mem_variants listed
  have still {p : Path} (apart : p ≠ [pageName]) : w'.disk.find? (output.bare ++ p) = d.find? (output.bare ++ p) := by
    rw [left, if_neg (by simpa using apart)]
  have rootPage := (left (output.bare ++ [pageName])).trans (if_pos rfl)
  refine ⟨?_, fun q apart => ?_, ?_, fun name rest other apart => ?_, names, sorted, fun name => ?_, rootPage⟩
  · simpa [changed.folder] using still (p := []) (by simp)
  · rw [left, if_neg, changed.above q apart]
    rintro rfl
    exact apart (List.prefix_append _ _)
  · rwa [still (by simp)]
  · rw [still apart, changed.other other]
  · rw [members, still (p := [name, pageName]) (by simp)]
    by_cases here : name = pageName
    · -- There is a file at the place of the root page.
      simp [here, Disk.not_folder_of_takes fits, rootPage]
    · rw [still (by simpa using here)]

-- A disk on which a run finds all that it has found on another.
structure IsReady (wheels output : Path) (variant : String) (d e : Disk) : Prop where
  folder : e.find? wheels.bare = some .folder
  archives : ∀ f, e.file? (wheels.bare ++ [f]) = d.file? (wheels.bare ++ [f])
  clear : IsOpen (output.child variant) e
  free : e.find? (output.bare ++ [pageName]) ≠ some .folder

namespace IsReady

variable {d e : Disk} {variant : String}

theorem noFile (h : IsReady wheels output variant d e) {q : Path} (above : q <+: output.bare) : e.file? q = none := by
  refine h.clear q (above.trans (above_child output variant)) ?_
  rintro rfl
  exact child_not_above output variant above

-- The output folder itself may lie in the folder with the archives.
theorem archive_cases (outside : ¬output.bare <+: wheels.bare) (f : String) :
    output.bare = wheels.bare ++ [f] ∨ ¬output.bare <+: wheels.bare ++ [f] := by
  by_cases below : output.bare <+: wheels.bare ++ [f]
  · exact .inl ((List.prefix_concat_iff.1 below).resolve_right outside)
  · exact .inr below

theorem of_isFresh (h : IsReady wheels output variant d d) (outside : ¬output.bare <+: wheels.bare)
    (fresh : IsFresh output d e) : IsReady wheels output variant d e := by
  refine ⟨(fresh.outside _ outside).trans h.folder, fun f => ?_, fun q before proper => ?_, ?_⟩
  · rcases archive_cases outside f with here | apart
    · rw [← here, fresh.noFile, h.noFile List.prefix_rfl]
    · rw [Disk.file?, fresh.outside _ apart, Disk.file?]
  · have above := (List.prefix_concat_iff.1 before).resolve_left proper
    by_cases here : output.bare <+: q
    · rw [above.eq_of_length_le here.length_le]
      exact fresh.noFile
    · rw [Disk.file?, fresh.outside q here, ← Disk.file?]
      exact h.noFile above
  · rw [fresh.empty]
    simp

theorem of_isRefreshed {name : String} (h : IsReady wheels output variant d d) (outside : ¬output.bare <+: wheels.bare)
    (refreshed : IsRefreshed output name d e) : IsReady wheels output variant d e := by
  obtain ⟨names, _, _, rootPage⟩ := refreshed.root
  have folders {q : Path} (above : q <+: output.bare) : e.find? q = some .folder := by
    by_cases here : q = output.bare
    · rw [here, refreshed.folder]
    · exact Disk.find?_above (by rw [refreshed.folder]; simp) above here
  refine ⟨?_, fun f => ?_, fun q before proper => ?_, by rw [rootPage]; simp⟩
  · rw [refreshed.outside _ outside, h.folder, ite_self]
  · rcases archive_cases outside f with here | apart
    · rw [← here, Disk.file?_of_isFolder refreshed.folder, h.noFile List.prefix_rfl]
    · by_cases above : wheels.bare ++ [f] <+: output.bare
      · rw [Disk.file?_of_isFolder (folders above), h.noFile above]
      · rw [Disk.file?, refreshed.outside _ apart, if_neg above, ← Disk.file?]
  · exact Disk.file?_of_isFolder (folders ((List.prefix_concat_iff.1 before).resolve_left proper))

end IsReady

theorem run_ready (outside : ¬output.bare <+: wheels.bare) (generated : run wheels output options w = .ok result w') :
    IsReady wheels output options.variant w.disk w.disk := by
  obtain ⟨names, d, changed, there, _, _, fits, _⟩ := run_written outside generated
  obtain ⟨proper, filenames, _, _, v, _, _, listed, same, written, _⟩ := run_parts generated
  obtain ⟨clear, _⟩ := writeVariant_parts (ne_empty_of_isVariant proper) written
  refine ⟨(Disk.mem_of_listFiles listed).1, fun _ => rfl, same ▸ clear, fun folder => ?_⟩
  have other : pageName ≠ options.variant := by
    intro same
    exact Disk.not_folder_of_takes fits (same ▸ there)
  exact Disk.not_folder_of_takes fits ((changed.other other []).trans folder)

-- A run that succeeds writes the same pages of its variant wherever it finds the same.
theorem run_mirrored (outside : ¬output.bare <+: wheels.bare) (generated : run wheels output options w = .ok result w')
    (ready : IsReady wheels output options.variant w.disk u.disk) :
    ∃ result' u', run wheels output options u = .ok result' u' ∧ ∀ rel,
      w'.disk.find? (output.bare ++ options.variant :: rel) = u'.disk.find? (output.bare ++ options.variant :: rel) := by
  obtain ⟨proper, filenames, indexed, names, v, v₁, v₂, listed, same, written, root, ended⟩ := run_parts generated
  have listed' := Disk.listFiles_congr listed ready.folder fun f => by rw [ready.archives]
  obtain ⟨_, v', reported, same'⟩ := isIdle_report filenames u
  rw [← same, ← same'] at ready
  obtain ⟨u₁, written', alike, changed, changed'⟩ := writeVariant_mirrored (ne_empty_of_isVariant proper)
    (fun g inside => ne_empty_of_mem_packages inside)
    ⟨outside_child outside options.variant, ready.archives⟩ ready.clear written
  obtain ⟨found, text⟩ := writeRoot_ok_iff.1 ⟨v₂, root, ended.symm⟩
  obtain ⟨fits, fileName, put⟩ := Disk.writeFile_ok_iff.1 text
  have other : pageName ≠ options.variant := by
    intro same
    exact Disk.not_folder_of_takes fits (same ▸ alike.folder)
  have fits' : u₁.disk.takes (output.child pageName) = true := by
    refine Disk.takes_of_parent (Disk.takes_iff.1 fits).2.2.2 (child_ne_nil _ _) ?_ ?_
    · simpa [Path.child] using changed'.folder
    · rw [← Bool.not_eq_true, Disk.isFolder_iff]
      exact fun folder => ready.free ((changed'.other other []).symm.trans folder)
  obtain ⟨v₂', root', ended'⟩ :=
    writeRoot_ok_iff.2 ⟨variants_eq changed'.folder, Disk.writeFile_ok_iff.2 ⟨fits', fileName, rfl⟩⟩
  obtain ⟨result', u', ran, final⟩ := run_of_parts proper listed' reported written' root'
  refine ⟨result', u', ran, fun rel => ?_⟩
  have apart : output.bare ++ options.variant :: rel ≠ output.child pageName := by
    simp [Path.child, other.symm]
  have below := alike.below rel
  rw [Path.child, List.append_assoc, List.singleton_append] at below
  rw [put, final, ended', Disk.find?_put fits, Disk.find?_put fits', if_neg apart, if_neg apart, below]

end Wheelhouse.Index
