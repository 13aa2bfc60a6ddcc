import Wheelhouse.Proofs.Disk.Jobs
import Wheelhouse.Store.Bucket
import Wheelhouse.Store.Folder

/-!
What asking a store does to the disk. The stores of the program leave the disk alone when they look for an
object or read its text, and an object is fetched to a place below a folder without a change outside.
-/

set_option autoImplicit false

namespace Wheelhouse

/-- The stores of the program: in a folder, in a bucket, or either with some puts refused. -/
inductive ObjectStore.IsBuilt : ObjectStore → Prop
  | folder (root : Path) : IsBuilt (FolderStore.store root)
  | bucket (rules : ServiceRules) (name : String) : IsBuilt (Bucket.store rules name)
  | refusing (refuses : String → Bool) {inner : ObjectStore} : IsBuilt inner → IsBuilt (inner.refusing refuses)

namespace Bucket

variable (rules : ServiceRules)

theorem keepsDisk_answer (command : Command) : Job.KeepsDisk (answer rules command) := by
  intro w
  cases command with
  | head bucket key =>
    unfold answer
    rw [Job.bind_ok (Job.get_run w)]
    by_cases there : (w.objects.lookup (bucket, key)).isSome = true
    · exact .inl ⟨"", w, by simp [there], rfl⟩
    · exact .inr ⟨_, w, by simp [there]; rfl, rfl⟩
  | put bucket key contentType length body => exact .inl ⟨"", _, rfl, rfl⟩
  | fetch bucket key =>
    unfold answer
    rw [Job.bind_ok (Job.get_run w)]
    cases found : w.objects.lookup (bucket, key) with
    | none => exact .inr ⟨_, w, by simp [found]; rfl, rfl⟩
    | some body => exact .inl ⟨body, w, by simp [found], rfl⟩

theorem keepsDisk_send (command : Command) : Job.KeepsDisk (send rules command) := by
  refine (Job.isIdle_record _).keepsDisk.bind fun _ => ?_
  cases rules.failure? (key command) with
  | none => exact keepsDisk_answer rules command
  | some name => exact Job.keepsDisk_throw _

theorem respects_fetch {α : Type} {R : Workspace → Workspace → Prop} [IsPreorder Workspace R]
    (still : ∀ w v, Job.SameDisk w v → R w v) {use : String → Job α} (uses : ∀ body, Respects R (use body))
    (bucket key : String) : Respects R (fetch rules bucket key use) := by
  have sent : Respects R (send rules (.fetch bucket key)) := (keepsDisk_send rules _).respects still
  have ends (e : Failure) : Respects R (throw e : Job α) := (Job.keepsDisk_throw e).respects still
  refine (Job.respects_outcome (sent.bind uses)).bind fun outcome => ?_
  cases outcome with
  | ok a => exact (Job.isIdle_pure a).keepsDisk.respects still
  | error e =>
    cases absent : isAbsence e with
    | true => simpa [absent] using ends _
    | false => simpa [absent] using ends e

end Bucket

namespace ObjectStore.IsBuilt

variable {store : ObjectStore}

theorem keepsDisk_contains (built : IsBuilt store) (key : String) : Job.KeepsDisk (store.contains key) := by
  induction built with
  | folder root => exact (Job.keepsDisk_ofExcept _).bind Job.keepsDisk_has
  | bucket rules name =>
    refine (Bucket.keepsDisk_send rules _).outcome.keepsDisk.bind fun outcome => ?_
    cases outcome with
    | ok _ => exact (Job.isIdle_pure true).keepsDisk
    | error e =>
      cases absent : Bucket.isAbsence e with
      | true => simpa [absent] using (Job.isIdle_pure false).keepsDisk
      | false =>
        have failed : Job.KeepsDisk (throw e : Job Bool) := Job.keepsDisk_throw e
        simpa [absent] using failed
  | refusing refuses _ ih => exact ih

theorem keepsDisk_existing (root : Path) (key : String) : Job.KeepsDisk (FolderStore.existing root key) := by
  refine (Job.keepsDisk_ofExcept _).bind fun p => (Job.keepsDisk_has p).bind fun found => ?_
  cases found with
  | true => exact (Job.isIdle_pure p).keepsDisk
  | false => exact Job.keepsDisk_throw _

theorem keepsDisk_getText (built : IsBuilt store) (key : String) : Job.KeepsDisk (store.getText key) := by
  induction built with
  | folder root =>
    refine (keepsDisk_existing root key).bind fun p => ?_
    exact (Job.keepsDisk_look _).bind fun contents => (Job.isIdle_pure _).keepsDisk
  | bucket rules name =>
    refine Job.keepsDisk_iff.2 (Bucket.respects_fetch rules (fun _ _ same => same) (fun body => ?_) name key)
    apply Job.keepsDisk_iff.1
    have given : Job.KeepsDisk (pure body : Job String) := (Job.isIdle_pure body).keepsDisk
    split
    · exact (Job.keepsDisk_throw _).bind fun _ => given
    · exact given
  | refusing refuses _ ih => exact ih

theorem respects_getFile (built : IsBuilt store) (key : String) {folder target : Path} (plain : target.IsPlain)
    (below : folder <+: target) (proper : target ≠ folder) :
    Respects (Job.Confined folder) (store.getFile key target) := by
  have ensured : Respects (Job.Confined folder) (Job.ensureFolder target.parent) :=
    Job.respects_change (Disk.respects_ensureFolder (Disk.prefix_parent plain below proper))
  induction built with
  | folder root =>
    refine ((keepsDisk_existing root key).respects Job.sameDisk_confined).bind fun source => ?_
    exact ensured.bind fun _ => Job.respects_change (Disk.respects_copy source plain below proper)
  | bucket rules name =>
    apply Bucket.respects_fetch rules Job.sameDisk_confined
    intro body
    refine ensured.bind fun _ => ?_
    have written : Respects (Job.Confined folder) (Job.writeText target body) :=
      Job.respects_change (Disk.respects_writeFile below proper _)
    split
    · exact ((Job.keepsDisk_throw _).respects Job.sameDisk_confined).bind fun _ => written
    · exact written
  | refusing refuses _ ih => exact ih

end ObjectStore.IsBuilt

end Wheelhouse
