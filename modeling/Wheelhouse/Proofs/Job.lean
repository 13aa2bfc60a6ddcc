import Wheelhouse.Proofs.Disk.Operations
import Wheelhouse.Workspace

/-!
Jobs step by step: what each of the basic jobs does to a workspace, and how a job that is put together
from two succeeds or fails.
-/

set_option autoImplicit false

namespace Wheelhouse

-- The workspace with one more thing to be seen; nothing else about it changes.
def Workspace.noting (w : Workspace) (e : Event) : Workspace := { w with trace := w.trace ++ [e] }

@[simp] theorem Workspace.noting_disk (w : Workspace) (e : Event) : (w.noting e).disk = w.disk := rfl

@[simp] theorem Workspace.noting_now (w : Workspace) (e : Event) : (w.noting e).now = w.now := rfl

namespace Job

variable {α β : Type}

theorem bind_ok_iff {x : Job α} {f : α → Job β} {b : β} {w w' : Workspace} :
    (x >>= f) w = .ok b w' ↔ ∃ a v, x w = .ok a v ∧ f a v = .ok b w' := by
  change EStateM.bind x f w = _ ↔ _
  unfold EStateM.bind
  cases x w with
  | ok a v => exact ⟨fun h => ⟨a, v, rfl, h⟩, by rintro ⟨_, _, ⟨rfl, rfl⟩, h⟩; exact h⟩
  | error e v => simp

theorem bind_ok {x : Job α} {f : α → Job β} {a : α} {w v : Workspace} (h : x w = .ok a v) :
    (x >>= f) w = f a v := by
  change EStateM.bind x f w = _
  simp only [EStateM.bind, h]

theorem bind_error {x : Job α} {f : α → Job β} {e : Failure} {w v : Workspace}
    (h : x w = .error e v) : (x >>= f) w = .error e v := by
  change EStateM.bind x f w = _
  simp only [EStateM.bind, h]

theorem bind_error_iff {x : Job α} {f : α → Job β} {e : Failure} {w w' : Workspace} :
    (x >>= f) w = .error e w' ↔ x w = .error e w' ∨ ∃ a v, x w = .ok a v ∧ f a v = .error e w' := by
  cases ran : x w with
  | ok a v =>
    rw [bind_ok ran]
    constructor
    · exact fun failed => .inr ⟨a, v, rfl, failed⟩
    · rintro (failed | ⟨_, _, same, failed⟩)
      · cases failed
      · cases same
        exact failed
  | error e' v =>
    rw [bind_error ran]
    simp

theorem bind_congr {x : Job α} {f g : α → Job β} {w : Workspace} (same : ∀ a v, x w = .ok a v → f a v = g a v) :
    (x >>= f) w = (x >>= g) w := by
  cases ran : x w with
  | ok a v => rw [bind_ok ran, bind_ok ran, same a v ran]
  | error e v => rw [bind_error ran, bind_error ran]

theorem bind_congr_left {x y : Job α} {w : Workspace} (same : x w = y w) (f : α → Job β) :
    (x >>= f) w = (y >>= f) w := by
  cases ran : y w with
  | ok a v => rw [bind_ok (same.trans ran), bind_ok ran]
  | error e v => rw [bind_error (same.trans ran), bind_error ran]

@[simp] theorem pure_run (a : α) (w : Workspace) : (pure a : Job α) w = .ok a w := rfl

@[simp] theorem throw_run (e : Failure) (w : Workspace) : (throw e : Job α) w = .error e w := rfl

@[simp] theorem get_run (w : Workspace) : (get : Job Workspace) w = .ok w w := rfl

@[simp] theorem record_run (e : Event) (w : Workspace) : record e w = .ok () (w.noting e) := rfl

@[simp] theorem log_run (s : Severity) (text : String) (details : Members) (w : Workspace) :
    log s text details w = .ok () (w.noting (.notice ⟨s, text, details⟩)) := rfl

@[simp] theorem info_run (text : String) (details : Members) (w : Workspace) :
    info text details w = .ok () (w.noting (.notice ⟨.info, text, details⟩)) := rfl

@[simp] theorem warn_run (text : String) (details : Members) (w : Workspace) :
    warn text details w = .ok () (w.noting (.notice ⟨.warn, text, details⟩)) := rfl

@[simp] theorem error_run (text : String) (details : Members) (w : Workspace) :
    error text details w = .ok () (w.noting (.notice ⟨.error, text, details⟩)) := rfl

@[simp] theorem debug_run (text : String) (details : Members) (w : Workspace) :
    debug text details w = .ok () (w.noting (.notice ⟨.debug, text, details⟩)) := rfl

@[simp] theorem has_run (p : Path) (w : Workspace) : has p w = .ok (w.disk.has p) w := rfl

theorem outcome_ok {t : Job α} {a : α} {w v : Workspace} (h : t w = .ok a v) :
    outcome t w = .ok (.ok a) v := by
  simp only [outcome, h]

theorem outcome_error {t : Job α} {e : Failure} {w v : Workspace} (h : t w = .error e v) :
    outcome t w = .ok (.error e) v := by
  simp only [outcome, h]

theorem ok_of_outcome {t : Job α} {a : α} {w v : Workspace} (ended : outcome t w = .ok (.ok a) v) : t w = .ok a v := by
  cases ran : t w with
  | ok a' v' =>
    rw [outcome_ok ran] at ended
    cases ended
    rfl
  | error e v' =>
    rw [outcome_error ran] at ended
    cases ended

theorem error_of_outcome {t : Job α} {e : Failure} {w v : Workspace} (ended : outcome t w = .ok (.error e) v) :
    t w = .error e v := by
  cases ran : t w with
  | ok a v' =>
    rw [outcome_ok ran] at ended
    cases ended
  | error e' v' =>
    rw [outcome_error ran] at ended
    cases ended
    rfl

theorem ofExcept_ok_iff {r : Except Failure α} {a : α} {w w' : Workspace} :
    ofExcept r w = .ok a w' ↔ r = .ok a ∧ w' = w := by
  cases r <;> simp [ofExcept, eq_comm]

theorem look_ok_iff {f : Disk → Except DiskError α} {a : α} {w w' : Workspace} :
    look f w = .ok a w' ↔ f w.disk = .ok a ∧ w' = w := by
  unfold look
  cases f w.disk <;> simp [eq_comm]

theorem ofExcept_error_iff {r : Except Failure α} {e : Failure} {w w' : Workspace} :
    ofExcept r w = .error e w' ↔ r = .error e ∧ w' = w := by
  cases r <;> simp [ofExcept, eq_comm]

theorem look_error_iff {f : Disk → Except DiskError α} {e : Failure} {w w' : Workspace} :
    look f w = .error e w' ↔ ∃ x, f w.disk = .error x ∧ e = .disk x ∧ w' = w := by
  unfold look
  cases f w.disk <;> simp [eq_comm]

theorem change_ok_iff {f : Disk.Change Unit} {w w' : Workspace} :
    change f w = .ok () w' ↔ ∃ d, f w.disk = .ok () d ∧ w' = { w with disk := d } := by
  unfold change
  cases f w.disk <;> simp [eq_comm]

theorem readText_ok_iff {p : Path} {text : String} {w w' : Workspace} :
    readText p w = .ok text w' ↔ ∃ bytes, w.disk.readFile p = .ok bytes ∧ text = Text.decode bytes ∧ w' = w := by
  rw [readText, bind_ok_iff]
  constructor
  · rintro ⟨bytes, v, read, same⟩
    obtain ⟨read, rfl⟩ := look_ok_iff.1 read
    cases same
    exact ⟨bytes, read, rfl, rfl⟩
  · rintro ⟨bytes, read, rfl, rfl⟩
    exact ⟨bytes, _, look_ok_iff.2 ⟨read, rfl⟩, rfl⟩

theorem writeText_ok_iff {p : Path} {text : String} {w w' : Workspace} :
    writeText p text w = .ok () w' ↔
      ∃ d, w.disk.writeFile p (Text.encode text) = .ok d ∧ w' = { w with disk := d } := by
  rw [writeText, writeFile, change_ok_iff]
  simp only [Disk.attempt_ok_iff]

theorem mapM_cons_ok_iff {f : α → Job β} {a : α} {as : List α} {bs : List β} {w w' : Workspace} :
    (a :: as).mapM f w = .ok bs w' ↔
      ∃ b v rest, f a w = .ok b v ∧ as.mapM f v = .ok rest w' ∧ bs = b :: rest := by
  rw [List.mapM_cons, bind_ok_iff]
  constructor
  · rintro ⟨b, v, first, others⟩
    obtain ⟨rest, v', others, ended⟩ := bind_ok_iff.1 others
    cases ended
    exact ⟨b, v, rest, first, others, rfl⟩
  · rintro ⟨b, v, rest, first, others, rfl⟩
    exact ⟨b, v, first, bind_ok_iff.2 ⟨rest, w', others, rfl⟩⟩

theorem forM_cons (f : α → Job Unit) (a : α) (as : List α) :
    (a :: as).forM f = f a >>= fun _ => as.forM f := rfl

theorem forM_append (f : α → Job Unit) (as bs : List α) :
    (as ++ bs).forM f = as.forM f >>= fun _ => bs.forM f := by
  induction as with
  | nil => exact (pure_bind () fun _ => bs.forM f).symm
  | cons a as ih => rw [List.cons_append, forM_cons, ih, forM_cons, bind_assoc]

theorem forM_record_run (f : α → Event) (as : List α) (w : Workspace) :
    (as.forM fun a => record (f a)) w = .ok () { w with trace := w.trace ++ as.map f } := by
  induction as generalizing w with
  | nil =>
    change (pure () : Job Unit) w = _
    simp
  | cons a as ih =>
    change (record (f a) >>= fun _ => as.forM fun a => record (f a)) w = _
    rw [bind_ok (record_run (f a) w), ih]
    simp [Workspace.noting]

theorem change_error_iff {f : Disk.Change Unit} {e : Failure} {w w' : Workspace} :
    change f w = .error e w' ↔
      ∃ x d, f w.disk = .error x d ∧ e = .disk x ∧ w' = { w with disk := d } := by
  unfold change
  cases f w.disk with
  | ok a d => simp
  | error x d =>
    constructor
    · intro h
      cases h
      exact ⟨x, d, rfl, rfl, rfl⟩
    · rintro ⟨_, _, h, rfl, rfl⟩
      cases h
      rfl

-- A job that succeeds and leaves the disk as it is, wherever it is done.
def IsIdle (t : Job α) : Prop := ∀ w, ∃ a v, t w = .ok a v ∧ v.disk = w.disk

-- A job that leaves the disk as it is, also when it fails.
def KeepsDisk (t : Job α) : Prop :=
  ∀ w, (∃ a v, t w = .ok a v ∧ v.disk = w.disk) ∨ ∃ e v, t w = .error e v ∧ v.disk = w.disk

theorem isIdle_pure (a : α) : IsIdle (pure a) := fun w => ⟨a, w, rfl, rfl⟩

theorem isIdle_record (e : Event) : IsIdle (record e) := fun w => ⟨(), _, record_run e w, rfl⟩

theorem IsIdle.bind {x : Job α} {f : α → Job β} (first : IsIdle x) (later : ∀ a, IsIdle (f a)) : IsIdle (x >>= f) := by
  intro w
  obtain ⟨a, v, ran, same⟩ := first w
  obtain ⟨b, v', ran', same'⟩ := later a v
  exact ⟨b, v', (bind_ok ran).trans ran', same'.trans same⟩

theorem isIdle_forM {f : α → Job Unit} {as : List α} (each : ∀ a ∈ as, IsIdle (f a)) : IsIdle (as.forM f) := by
  induction as with
  | nil => exact isIdle_pure ()
  | cons a as ih =>
    exact (each a List.mem_cons_self).bind fun _ => ih fun b inside => each b (List.mem_cons_of_mem _ inside)

theorem KeepsDisk.outcome {t : Job α} (keeps : KeepsDisk t) : IsIdle (outcome t) := by
  intro w
  rcases keeps w with ⟨a, v, ran, same⟩ | ⟨e, v, ran, same⟩
  · exact ⟨_, v, outcome_ok ran, same⟩
  · exact ⟨_, v, outcome_error ran, same⟩

theorem IsIdle.keepsDisk {t : Job α} (idle : IsIdle t) : KeepsDisk t := fun w => .inl (idle w)

theorem keepsDisk_throw (e : Failure) : KeepsDisk (throw e : Job α) := fun w => .inr ⟨e, w, rfl, rfl⟩

theorem keepsDisk_look (f : Disk → Except DiskError α) : KeepsDisk (look f) := by
  intro w
  unfold look
  cases f w.disk with
  | ok a => exact .inl ⟨a, w, rfl, rfl⟩
  | error x => exact .inr ⟨_, w, rfl, rfl⟩

theorem keepsDisk_ofExcept (r : Except Failure α) : KeepsDisk (ofExcept r) := by
  intro w
  cases r with
  | ok a => exact .inl ⟨a, w, rfl, rfl⟩
  | error x => exact .inr ⟨x, w, rfl, rfl⟩

theorem KeepsDisk.bind {x : Job α} {f : α → Job β} (first : KeepsDisk x) (later : ∀ a, KeepsDisk (f a)) :
    KeepsDisk (x >>= f) := by
  intro w
  rcases first w with ⟨a, v, ran, same⟩ | ⟨e, v, failed, same⟩
  · rw [bind_ok ran]
    rcases later a v with ⟨b, v', ran', same'⟩ | ⟨e, v', failed, same'⟩
    · exact .inl ⟨b, v', ran', same'.trans same⟩
    · exact .inr ⟨e, v', failed, same'.trans same⟩
  · exact .inr ⟨e, v, bind_error failed, same⟩

-- Where a job succeeds, it succeeds with the same value from every disk that is related to the disk there,
-- and the disks that it leaves are related again.
def Mirrors (R : Disk → Disk → Prop) (t : Job α) : Prop :=
  ∀ w u a w', R w.disk u.disk → t w = .ok a w' → ∃ u', t u = .ok a u' ∧ R w'.disk u'.disk

variable {R : Disk → Disk → Prop}

theorem mirrors_pure (a : α) : Mirrors R (pure a) := by
  intro w u b w' related ran
  cases ran
  exact ⟨u, rfl, related⟩

theorem Mirrors.bind {x : Job α} {f : α → Job β} (first : Mirrors R x) (later : ∀ a, Mirrors R (f a)) :
    Mirrors R (x >>= f) := by
  intro w u b w' related ran
  obtain ⟨a, v, ranFirst, ranLater⟩ := bind_ok_iff.1 ran
  obtain ⟨u₁, ranFirst', related'⟩ := first w u a v related ranFirst
  obtain ⟨u₂, ranLater', related''⟩ := later a v u₁ b w' related' ranLater
  exact ⟨u₂, (bind_ok ranFirst').trans ranLater', related''⟩

theorem mirrors_mapM {f : α → Job β} {as : List α} (each : ∀ a ∈ as, Mirrors R (f a)) : Mirrors R (as.mapM f) := by
  induction as with
  | nil => exact mirrors_pure []
  | cons a as ih =>
    rw [List.mapM_cons]
    exact (each a List.mem_cons_self).bind fun b =>
      (ih fun a' inside => each a' (List.mem_cons_of_mem _ inside)).bind fun bs => mirrors_pure (b :: bs)

end Job

end Wheelhouse
