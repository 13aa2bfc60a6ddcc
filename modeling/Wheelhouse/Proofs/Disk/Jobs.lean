import Wheelhouse.Proofs.Disk.Containment
import Wheelhouse.Proofs.Job

/-!
Jobs and the disk. What a job that succeeds or fails does to the disk of its workspace: nothing at all, or
nothing but what a change of disks does.
-/

set_option autoImplicit false

namespace Wheelhouse

namespace Job

variable {α : Type}

def SameDisk (w v : Workspace) : Prop := v.disk = w.disk

instance : IsPreorder Workspace SameDisk where
  refl _ := rfl
  trans _ _ _ first later := later.trans first

def OnDisk (R : Disk → Disk → Prop) (w v : Workspace) : Prop := R w.disk v.disk

instance (R : Disk → Disk → Prop) [IsPreorder Disk R] : IsPreorder Workspace (OnDisk R) where
  refl w := refl_of R w.disk
  trans _ _ _ first later := trans_of R first later

def Confined (folder : Path) (w v : Workspace) : Prop := w.disk.Confined folder v.disk

instance (folder : Path) : IsPreorder Workspace (Confined folder) :=
  inferInstanceAs (IsPreorder Workspace (OnDisk (Disk.Confined folder)))

theorem keepsDisk_iff {t : Job α} : KeepsDisk t ↔ Respects SameDisk t := by
  constructor
  · intro keeps w
    rcases keeps w with ⟨a, v, ran, same⟩ | ⟨e, v, failed, same⟩
    · rwa [final_ok ran]
    · rwa [final_error failed]
  · intro same w
    have ends := same w
    cases ran : t w with
    | ok a v => exact .inl ⟨a, v, rfl, final_ok ran ▸ ends⟩
    | error e v => exact .inr ⟨e, v, rfl, final_error ran ▸ ends⟩

theorem KeepsDisk.respects {R : Workspace → Workspace → Prop} (still : ∀ w v, SameDisk w v → R w v) {t : Job α}
    (keeps : KeepsDisk t) : Respects R t :=
  fun w => still w _ (keepsDisk_iff.1 keeps w)

theorem sameDisk_confined {folder : Path} (w v : Workspace) (same : SameDisk w v) : Confined folder w v := by
  intro q changed
  rw [same] at changed
  exact absurd rfl changed

theorem respects_outcome {R : Workspace → Workspace → Prop} {t : Job α} (h : Respects R t) :
    Respects R (outcome t) := by
  intro w
  have ends := h w
  cases ran : t w with
  | ok a v => rwa [final_ok (outcome_ok ran), ← final_ok ran]
  | error e v => rwa [final_ok (outcome_error ran), ← final_error ran]

theorem final_change (f : Disk.Change Unit) (w : Workspace) :
    final (change f) w = { w with disk := final f w.disk } := by
  unfold final change
  cases f w.disk <;> rfl

theorem respects_change_onDisk {R : Disk → Disk → Prop} {f : Disk.Change Unit} (h : Respects R f) :
    Respects (OnDisk R) (change f) := by
  intro w
  rw [final_change]
  exact h w.disk

theorem respects_change {folder : Path} {f : Disk.Change Unit} (h : Respects (Disk.Confined folder) f) :
    Respects (Confined folder) (change f) :=
  respects_change_onDisk h

theorem keepsDisk_has (p : Path) : KeepsDisk (has p) := fun w => .inl ⟨_, w, has_run p w, rfl⟩

end Job

end Wheelhouse
