import Wheelhouse.Proofs.Disk.Locality
import Wheelhouse.Proofs.Site.Pages

/-!
The pages of one variant. They are written into an empty folder, so that they come out the same wherever
the same archives are found, and nothing outside the folder changes but that the folders above it are
there.
-/

set_option autoImplicit false

namespace Wheelhouse.Index

open Disk (Alike KeepsOutside IsOpen IsCleared)

-- Two disks that go through the same changes in a folder.
structure Abreast (root : Path) (d₀ e₀ d e : Disk) : Prop where
  alike : Alike root d e
  left : KeepsOutside root d₀ d
  right : KeepsOutside root e₀ e

variable {root wheels output : Path} {d₀ e₀ d e : Disk} {options : IndexOptions} {w w' u : Workspace}

theorem abreast_refl (alike : Alike root d e) : Abreast root d e d e := ⟨alike, .refl root d, .refl root e⟩

theorem mirrors_ensureFolder (rel : Path) : Job.Mirrors (Abreast root d₀ e₀) (Job.ensureFolder (root ++ rel)) := by
  intro w u _ w' h ran
  obtain ⟨d, made, rfl⟩ := Job.change_ok_iff.1 ran
  obtain ⟨e, made', alike⟩ := h.alike.ensureFolder made
  exact ⟨_, Job.change_ok_iff.2 ⟨e, made', rfl⟩, alike,
    h.left.trans (Disk.keepsOutside_of_ensureFolder h.alike.folder made),
    h.right.trans (Disk.keepsOutside_of_ensureFolder h.alike.symm.folder made')⟩

theorem mirrors_writeText (rel : Path) (text : String) :
    Job.Mirrors (Abreast root d₀ e₀) (Job.writeText (root ++ rel) text) := by
  intro w u _ w' h ran
  obtain ⟨d, written, rfl⟩ := Job.writeText_ok_iff.1 ran
  obtain ⟨e, written', alike⟩ := h.alike.writeFile written
  exact ⟨_, Job.writeText_ok_iff.2 ⟨e, written', rfl⟩, alike,
    h.left.trans (Disk.keepsOutside_of_writeFile written), h.right.trans (Disk.keepsOutside_of_writeFile written')⟩

-- The archives are not in the folder, and they are the same on both disks.
structure SameArchives (root wheels : Path) (d e : Disk) : Prop where
  outside : ∀ f, ¬root <+: wheels.bare ++ [f]
  file? : ∀ f, e.file? (wheels.bare ++ [f]) = d.file? (wheels.bare ++ [f])

theorem mirrors_archiveLink (same : SameArchives root wheels d₀ e₀) (a : Archive) :
    Job.Mirrors (Abreast root d₀ e₀) (archiveLink wheels options a) := by
  have digest : Job.Mirrors (Abreast root d₀ e₀) (Job.look fun d => d.digest (wheels.child a.filename)) := by
    intro w u s w' h ran
    obtain ⟨read, rfl⟩ := Job.look_ok_iff.1 ran
    refine ⟨u, Job.look_ok_iff.2 ⟨?_, rfl⟩, h⟩
    unfold Disk.digest at read ⊢
    cases found : w'.disk.readFile (wheels.child a.filename) with
    | error x =>
      rw [found] at read
      cases read
    | ok contents =>
      have file := Disk.file?_eq_some_iff.2 (Disk.readFile_ok found).2
      have file' : u.disk.file? (wheels.child a.filename) = some contents := by
        have outside := same.outside a.filename
        unfold Path.child at file ⊢
        rw [Disk.file?, h.right _ outside, ← Disk.file?, same.file?, Disk.file?, ← h.left _ outside, ← Disk.file?,
          file]
      rw [Disk.readFile_of_find? (Disk.file?_eq_some_iff.1 file'), ← found]
      exact read
  unfold archiveLink
  split
  · exact digest.bind fun s => Job.mirrors_pure _
  · exact Job.mirrors_pure _

theorem mirrors_writePackage {package : String × List Archive} (unmarked : root.isMarked = false)
    (named : package.1 ≠ "") (same : SameArchives root wheels d₀ e₀) :
    Job.Mirrors (Abreast root d₀ e₀) (writePackage wheels root options package) := by
  unfold writePackage
  simp only [Path.child_of_unmarked unmarked, child_of_ne_empty named]
  exact (Job.mirrors_mapM fun a _ => mirrors_archiveLink same a).bind fun links =>
    (mirrors_ensureFolder _).bind fun _ => (mirrors_writeText _ _).bind fun _ => Job.mirrors_pure _

-- What is left to do once the folder of the variant is there.
def writePages (wheels folder : Path) (options : IndexOptions) (groups : List (String × List Archive)) :
    Job (List IndexedPackage) := do
  let indexed ← groups.mapM (writePackage wheels folder options)
  Job.writeText (folder.child pageName) (Html.page (variantTitle options.variant options.labels)
    (groups.map fun g => Html.folderLink g.1))
  return indexed

theorem mirrors_writePages {groups : List (String × List Archive)} (unmarked : root.isMarked = false)
    (named : ∀ g ∈ groups, g.1 ≠ "") (same : SameArchives root wheels d₀ e₀) :
    Job.Mirrors (Abreast root d₀ e₀) (writePages wheels root options groups) := by
  unfold writePages
  rw [Path.child_of_unmarked unmarked]
  exact (Job.mirrors_mapM fun g inside => mirrors_writePackage unmarked (named g inside) same).bind fun indexed =>
    (mirrors_writeText _ _).bind fun _ => Job.mirrors_pure _

theorem writeVariant_eq (wheels output : Path) (options : IndexOptions) (groups : List (String × List Archive)) :
    writeVariant wheels output options groups =
      (Job.remove (output.child options.variant) >>= fun _ =>
        Job.ensureFolder (output.child options.variant) >>= fun _ =>
          writePages wheels (output.child options.variant) options groups) :=
  rfl

theorem writePages_page {groups : List (String × List Archive)} {indexed : List IndexedPackage}
    (unmarked : root.isMarked = false) (written : writePages wheels root options groups w = .ok indexed w') :
    (∀ name ∈ root ++ [pageName], Path.isName name = true) ∧
      ∃ contents, w'.disk.find? (root ++ [pageName]) = some (.file contents) := by
  unfold writePages at written
  obtain ⟨_, v, _, rest⟩ := Job.bind_ok_iff.1 written
  obtain ⟨_, v', put, rest⟩ := Job.bind_ok_iff.1 rest
  cases rest
  obtain ⟨d, text, rfl⟩ := Job.writeText_ok_iff.1 put
  obtain ⟨fits, rfl⟩ := Disk.writeFile_ok text
  rw [Path.child_of_unmarked unmarked] at fits ⊢
  exact ⟨(Disk.takes_iff.1 fits).2.2.2, _, by rw [Disk.find?_put fits, if_pos rfl]⟩

theorem child_ne_nil (p : Path) (name : String) : p.child name ≠ [] := by simp [Path.child]

theorem isMarked_child {name : String} (filled : name ≠ "") (p : Path) : Path.isMarked (p.child name) = false := by
  simp [Path.child, Path.isMarked, filled]

-- What a run that succeeds has found: the folder of the variant could be made, and it was empty then.
theorem writeVariant_parts {groups : List (String × List Archive)} {indexed : List IndexedPackage}
    (filled : options.variant ≠ "") (written : writeVariant wheels output options groups w = .ok indexed w') :
    IsOpen (output.child options.variant) w.disk ∧ (output.child options.variant).isFarTooLong = false ∧
      (∀ name ∈ output.child options.variant, Path.isName name = true) ∧
      ∃ v, IsCleared (output.child options.variant) w.disk v.disk ∧
        writePages wheels (output.child options.variant) options groups v = .ok indexed w' := by
  rw [writeVariant_eq] at written
  obtain ⟨_, w₁, removed, rest⟩ := Job.bind_ok_iff.1 written
  obtain ⟨_, w₂, ensured, pages⟩ := Job.bind_ok_iff.1 rest
  have named : ∀ name ∈ output.child options.variant, Path.isName name = true :=
    fun name inside => (writePages_page (isMarked_child filled output) pages).1 name (List.mem_append_left _ inside)
  obtain ⟨d₁, changed, rfl⟩ := Job.change_ok_iff.1 removed
  obtain ⟨d₂, made, rfl⟩ := Job.change_ok_iff.1 ensured
  obtain ⟨clear, cleared⟩ :=
    Disk.cleared_ok (child_ne_nil _ _) (.of_isName named) (Disk.attempt_ok_iff.1 changed) made
  exact ⟨clear, Disk.near_of_ensureFolder made, named, _, cleared, pages⟩

theorem writeVariant_of_isOpen (wheels : Path) (groups : List (String × List Archive))
    (named : ∀ name ∈ output.child options.variant, Path.isName name = true)
    (near : (output.child options.variant).isFarTooLong = false)
    (clear : IsOpen (output.child options.variant) w.disk) :
    ∃ v, IsCleared (output.child options.variant) w.disk v.disk ∧
      writeVariant wheels output options groups w =
        writePages wheels (output.child options.variant) options groups v := by
  obtain ⟨d₁, d₂, removed, made, cleared⟩ := Disk.cleared_of_isOpen (child_ne_nil _ _) named near clear
  have first : Job.remove (output.child options.variant) w = .ok () { w with disk := d₁ } :=
    Job.change_ok_iff.2 ⟨d₁, Disk.attempt_ok_iff.2 removed, rfl⟩
  have second : Job.ensureFolder (output.child options.variant) { w with disk := d₁ } = .ok () { w with disk := d₂ } :=
    Job.change_ok_iff.2 ⟨d₂, made, rfl⟩
  exact ⟨_, cleared, by rw [writeVariant_eq, Job.bind_ok first, Job.bind_ok second]⟩

theorem SameArchives.of_isCleared (same : SameArchives root wheels d₀ e₀) (cleared : IsCleared root d₀ d)
    (cleared' : IsCleared root e₀ e) : SameArchives root wheels d e := by
  refine ⟨same.outside, fun f => ?_⟩
  have outside := same.outside f
  have before := same.file? f
  unfold Disk.file? at before ⊢
  rw [cleared, cleared', if_neg outside, if_neg outside]
  split_ifs
  · rfl
  · exact before

-- A change in a folder, which is there in the end.
def IsRewritten (root : Path) (d d' : Disk) : Prop :=
  ∀ q, ¬root <+: q → d'.find? q = if q <+: root then some .folder else d.find? q

theorem isRewritten_of_isCleared (cleared : IsCleared root d₀ d) (kept : KeepsOutside root d e) :
    IsRewritten root d₀ e := by
  intro q outside
  rw [kept q outside, cleared, if_neg outside]

-- Writing a variant changes its folder only, and what it leaves there depends on the archives only.
theorem writeVariant_mirrored {groups : List (String × List Archive)} {indexed : List IndexedPackage}
    (filled : options.variant ≠ "") (named : ∀ g ∈ groups, g.1 ≠ "")
    (same : SameArchives (output.child options.variant) wheels w.disk u.disk)
    (clear : IsOpen (output.child options.variant) u.disk)
    (written : writeVariant wheels output options groups w = .ok indexed w') :
    ∃ u', writeVariant wheels output options groups u = .ok indexed u' ∧
      Alike (output.child options.variant) w'.disk u'.disk ∧
      IsRewritten (output.child options.variant) w.disk w'.disk ∧
      IsRewritten (output.child options.variant) u.disk u'.disk := by
  obtain ⟨_, near, isName, v, cleared, pages⟩ := writeVariant_parts filled written
  obtain ⟨v', cleared', writes⟩ := writeVariant_of_isOpen wheels groups isName near clear
  have start := abreast_refl (Disk.alike_of_isCleared cleared cleared')
  obtain ⟨u', pages', h⟩ :=
    mirrors_writePages (isMarked_child filled output) named (same.of_isCleared cleared cleared') v v' indexed w' start pages
  exact ⟨u', writes.trans pages', h.alike, isRewritten_of_isCleared cleared h.left,
    isRewritten_of_isCleared cleared' h.right⟩

end Wheelhouse.Index
