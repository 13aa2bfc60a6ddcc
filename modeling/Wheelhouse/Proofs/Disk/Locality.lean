import Wheelhouse.Proofs.Disk.Operations

/-!
Changes below a folder. What an operation does below a folder is decided by what lies in that folder, and
nothing of it shows outside.
-/

set_option autoImplicit false

namespace Wheelhouse.Disk

variable {root : Path} {d d' e : Disk}

-- Two disks that hold the same in a folder.
structure Alike (root : Path) (d e : Disk) : Prop where
  folder : d.find? root = some .folder
  below : ∀ rel, e.find? (root ++ rel) = d.find? (root ++ rel)

-- A change that shows only in a folder.
def KeepsOutside (root : Path) (d d' : Disk) : Prop := ∀ q, ¬root <+: q → d'.find? q = d.find? q

theorem obstacle_congr {p : Path} (same : ∀ rel, e.find? (p ++ rel) = d.find? (p ++ rel)) (names : List String) :
    e.obstacle p names = d.obstacle p names := by
  induction names generalizing p with
  | nil => rfl
  | cons name rest ih =>
    have later := ih (p := p ++ [name]) fun rel => by simpa using same (name :: rel)
    simp only [obstacle, same, later]

-- The way to a folder is free.
theorem obstacle_append {p : Path} {names : List String} (there : d.find? (p ++ names) = some .folder)
    (rest : List String) : d.obstacle p (names ++ rest) = d.obstacle (p ++ names) rest := by
  induction names generalizing p with
  | nil => simp
  | cons name names ih =>
    have step : p ++ name :: names = (p ++ [name]) ++ names := by simp
    have short : Path.isTooLong name = false :=
      Path.isTooLong_of_isName (isName_of_find? (by rw [there]; simp)) name (by simp)
    rw [step] at there ⊢
    have here : d.find? (p ++ [name]) = some .folder := by
      by_cases last : names = []
      · simpa [last] using there
      · exact find?_above (by rw [there]; simp) (List.prefix_append _ _) (by simpa using Ne.symm last)
    rw [List.cons_append, obstacle, if_neg (by simp [short]), here]
    exact ih there

theorem prefix_bare (unmarked : root.isMarked = false) (rel : Path) : root <+: Path.bare (root ++ rel) := by
  unfold Path.bare
  split_ifs with marked
  · have filled : rel ≠ [] := by
      rintro rfl
      rw [List.append_nil, unmarked] at marked
      cases marked
    rw [List.dropLast_append_of_ne_nil filled]
    exact List.prefix_append _ _
  · exact List.prefix_append _ _

theorem keepsOutside_of_ensureFolder {rel : Path} (folder : d.find? root = some .folder)
    (made : ensureFolder (root ++ rel) d = .ok () d') : KeepsOutside root d d' := by
  have unmarked := (isPlain_of_find? (p := root) (d := d) (by rw [folder]; simp)).unmarked
  intro q outside
  refine (gains_of_ensureFolder (.inl made) q).resolve_right ?_
  rintro ⟨missing, _, before⟩
  have above := (List.prefix_or_prefix_of_prefix before (prefix_bare unmarked rel)).resolve_right outside
  have there := find?_above (by rw [folder]; simp) above (by rintro rfl; exact outside List.prefix_rfl)
  rw [missing] at there
  cases there

theorem keepsOutside_of_writeFile {rel : Path} {contents : ByteArray}
    (written : d.writeFile (root ++ rel) contents = .ok d') : KeepsOutside root d d' := by
  obtain ⟨fits, rfl⟩ := writeFile_ok written
  intro q outside
  rw [find?_put fits, if_neg]
  rintro rfl
  exact outside (List.prefix_append _ _)

theorem KeepsOutside.refl (root : Path) (d : Disk) : KeepsOutside root d d := fun _ _ => rfl

theorem KeepsOutside.trans {d'' : Disk} (first : KeepsOutside root d d') (later : KeepsOutside root d' d'') :
    KeepsOutside root d d'' :=
  fun q outside => (later q outside).trans (first q outside)

namespace Alike

theorem symm (h : Alike root d e) : Alike root e d where
  folder := by simpa [h.folder] using h.below []
  below rel := (h.below rel).symm

theorem file? (h : Alike root d e) (rel : Path) : e.file? (root ++ rel) = d.file? (root ++ rel) := by
  rw [Disk.file?, h.below, Disk.file?]

theorem isFolder (h : Alike root d e) (rel : Path) : e.isFolder (root ++ rel) = d.isFolder (root ++ rel) := by
  rw [Disk.isFolder, h.below, Disk.isFolder]

theorem absence (h : Alike root d e) (rel : Path) : e.absence (root ++ rel) = d.absence (root ++ rel) := by
  unfold Disk.absence
  have way := obstacle_append (p := []) h.folder rel
  have way' := obstacle_append (p := []) h.symm.folder rel
  rw [way, way', List.nil_append, obstacle_congr h.below]

theorem takes (h : Alike root d e) (rel : Path) : e.takes (root ++ rel) = d.takes (root ++ rel) := by
  by_cases here : rel = []
  · have folder := isFolder_iff.2 h.folder
    have folder' := isFolder_iff.2 h.symm.folder
    simp [here, Disk.takes, folder, folder']
  · rw [Disk.takes, List.dropLast_append_of_ne_nil here, h.isFolder, h.isFolder, Disk.takes,
      List.dropLast_append_of_ne_nil here]

theorem put (h : Alike root d e) (rel : Path) (x : Entry) : Alike root (d.put (root ++ rel) x) (e.put (root ++ rel) x) := by
  have both := h.takes rel
  by_cases fits : d.takes (root ++ rel) = true
  · rw [fits] at both
    have filled : root ≠ root ++ rel := by
      intro here
      have free := (takes_iff.1 fits).2.2.1
      rw [← here, isFolder_iff.2 h.folder] at free
      cases free
    refine ⟨by rw [find?_put fits, if_neg filled, h.folder], fun rel' => ?_⟩
    rw [find?_put both, find?_put fits, h.below]
  · rw [Disk.put, Disk.put, dif_neg fits, dif_neg (by rwa [both])]
    exact h

theorem addFolder {q : Path} (h : Alike root d e) (near : q <+: root ∨ root <+: q) :
    Alike root (d.addFolder q) (e.addFolder q) := by
  have beyond : root <+: q → Alike root (d.addFolder q) (e.addFolder q) := by
    rintro ⟨rel, rfl⟩
    unfold Disk.addFolder
    rw [h.below]
    split_ifs
    · exact h
    · exact h.put rel _
  rcases near with before | after
  · by_cases here : q = root
    · exact beyond (here ▸ List.prefix_rfl)
    · have there := find?_above (by rw [h.folder]; simp) before here
      have there' := find?_above (by rw [h.symm.folder]; simp) before here
      simpa [Disk.addFolder, there, there'] using h
  · exact beyond after

theorem foldl_addFolder (way : List Path) (near : ∀ q ∈ way, q <+: root ∨ root <+: q) (h : Alike root d e) :
    Alike root (way.foldl Disk.addFolder d) (way.foldl Disk.addFolder e) := by
  induction way generalizing d e with
  | nil => exact h
  | cons q way ih =>
    exact ih (fun r inside => near r (List.mem_cons_of_mem _ inside)) (h.addFolder (near q List.mem_cons_self))

theorem ensureFolder {rel : Path} (h : Alike root d e) (made : Disk.ensureFolder (root ++ rel) d = .ok () d') :
    ∃ e', Disk.ensureFolder (root ++ rel) e = .ok () e' ∧ Alike root d' e' := by
  have unmarked := (isPlain_of_find? (p := root) (d := d) (by rw [h.folder]; simp)).unmarked
  rw [ensureFolder_eq] at made
  simp only at made
  split_ifs at made with null far file long
  cases made
  have whole := takeWhile_short_eq long
  refine ⟨_, ?_, h.foldl_addFolder _ fun q inside => ?_⟩
  · rw [ensureFolder_eq]
    simp only [h.absence, h.file?]
    rw [if_neg null, if_neg far, if_neg file, if_neg long]
  · rw [whole] at inside
    exact List.prefix_or_prefix_of_prefix (mem_ancestry.1 inside).1 (prefix_bare unmarked rel)

theorem writeFile {rel : Path} {contents : ByteArray} (h : Alike root d e)
    (written : d.writeFile (root ++ rel) contents = .ok d') :
    ∃ e', e.writeFile (root ++ rel) contents = .ok e' ∧ Alike root d' e' := by
  unfold Disk.writeFile at written ⊢
  split_ifs at written with fits
  cases written
  exact ⟨_, by rw [h.takes, if_pos fits], h.put rel _⟩

end Alike

section Cleared

variable {p : Path} {d₁ d₂ : Disk}

-- No file stands on the way to a place.
def IsOpen (p : Path) (d : Disk) : Prop := ∀ q, q <+: p → q ≠ p → d.file? q = none

-- What a disk holds when a folder has been emptied, or made where there was none.
def IsCleared (p : Path) (d d' : Disk) : Prop :=
  ∀ q, d'.find? q = if q <+: p then some .folder else if p <+: q then none else d.find? q

theorem find?_erase_below (filled : p ≠ []) (q : Path) : (d.erase p).find? q = if p <+: q then none else d.find? q := by
  rw [find?_erase filled]
  simp only [List.isPrefixOf_iff_prefix]

theorem cleared_ok (filled : p ≠ []) (plain : p.IsPlain) (removed : d.remove p = .ok d₁)
    (made : ensureFolder p d₁ = .ok () d₂) : IsOpen p d ∧ IsCleared p d d₂ := by
  have erased := remove_ok removed
  rw [plain.bare] at erased
  have folders := (find?_of_ensureFolder (plain.bare.symm ▸ plain) made).2
  rw [plain.bare] at folders
  subst erased
  refine ⟨fun q before proper => ?_, fun q => by rw [folders, find?_erase_below filled]⟩
  have above : ¬p <+: q := fun below => proper (before.eq_of_length_le below.length_le)
  have gains := (gains_of_ensureFolder (.inl made)).file? q
  rw [Disk.file?, folders, if_pos before, Disk.file?, find?_erase_below filled, if_neg above, ← Disk.file?] at gains
  exact gains.symm

theorem cleared_of_isOpen (filled : p ≠ []) (named : ∀ name ∈ p, Path.isName name = true)
    (near : p.isFarTooLong = false) (clear : IsOpen p d) :
    ∃ d₁ d₂, d.remove p = .ok d₁ ∧ ensureFolder p d₁ = .ok () d₂ ∧ IsCleared p d d₂ := by
  have bare := (Path.IsPlain.of_isName named).bare
  have absent := absence_of_clear near (Path.isTooLong_of_isName named) clear
  have removed : d.remove p = .ok (d.erase p) := by
    rw [remove, absent, Path.hasNull_of_isName named, bare]
    rfl
  have noFile : ∀ q, q <+: p.bare → (d.erase p).file? q = none := by
    intro q before
    rw [bare] at before
    rw [Disk.file?, find?_erase_below filled]
    split_ifs with below
    · rfl
    · exact clear q before fun here => below (here ▸ List.prefix_rfl)
  obtain ⟨d₂, made, folders⟩ := ensureFolder_of_clear near (bare.symm ▸ named) noFile
  refine ⟨_, d₂, removed, made, fun q => ?_⟩
  rw [folders, bare, find?_erase_below filled]

theorem alike_of_isCleared {d₀ e₀ : Disk} (cleared : IsCleared p d₀ d) (cleared' : IsCleared p e₀ e) : Alike p d e := by
  refine ⟨by rw [cleared, if_pos List.prefix_rfl], fun rel => ?_⟩
  rw [cleared, cleared']
  simp only [List.prefix_append, if_true]

end Cleared

end Wheelhouse.Disk
