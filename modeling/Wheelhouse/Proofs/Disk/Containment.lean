import Mathlib.Order.Defs.Unbundled
import Wheelhouse.Proofs.Disk.Operations

/-!
Changes that stay in a folder. `Respects R t` says that `t` leads from each state to a related one, whether
it succeeds or fails half way; `Confined folder` relates two disks that differ only strictly below a folder
and in folders made on the way to it, `Within p` two that differ at `p` or below it. Making folders, writing
files and copying files and folders respect every relation that single entries respect.
-/

set_option autoImplicit false

namespace Wheelhouse

section

variable {ε σ α β : Type} {R : σ → σ → Prop}

/-- The state that a computation leaves, also when it fails. -/
def final (t : EStateM ε σ α) (s : σ) : σ :=
  match t s with
  | .ok _ s' => s'
  | .error _ s' => s'

def Respects (R : σ → σ → Prop) (t : EStateM ε σ α) : Prop := ∀ s, R s (final t s)

theorem final_ok {t : EStateM ε σ α} {a : α} {s s' : σ} (ran : t s = .ok a s') : final t s = s' := by
  rw [final, ran]

theorem final_error {t : EStateM ε σ α} {e : ε} {s s' : σ} (failed : t s = .error e s') : final t s = s' := by
  rw [final, failed]

theorem final_bind_ok {x : EStateM ε σ α} {f : α → EStateM ε σ β} {a : α} {s s' : σ} (ran : x s = .ok a s') :
    final (x >>= f) s = final (f a) s' := by
  simp only [final, bind, EStateM.bind, ran]

theorem final_bind_error {x : EStateM ε σ α} {f : α → EStateM ε σ β} {e : ε} {s s' : σ} (failed : x s = .error e s') :
    final (x >>= f) s = s' := by
  simp only [final, bind, EStateM.bind, failed]

variable [IsPreorder σ R]

-- What comes later goes on from what is left, or does not happen at all.
theorem Respects.after {x : EStateM ε σ α} {f : α → EStateM ε σ β} (later : ∀ a, Respects R (f a)) (s : σ) :
    R (final x s) (final (x >>= f) s) := by
  cases ran : x s with
  | error e s' =>
    rw [final_bind_error ran, final_error ran]
    exact refl_of R s'
  | ok a s' =>
    rw [final_bind_ok ran, final_ok ran]
    exact later a s'

theorem Respects.bind {x : EStateM ε σ α} {f : α → EStateM ε σ β} (first : Respects R x)
    (later : ∀ a, Respects R (f a)) : Respects R (x >>= f) :=
  fun s => trans_of R (first s) (Respects.after later s)

theorem respects_forM {f : α → EStateM ε σ Unit} {as : List α} (each : ∀ a ∈ as, Respects R (f a)) :
    Respects R (as.forM f) := by
  induction as with
  | nil => exact fun s => refl_of R s
  | cons a as ih =>
    exact (each a List.mem_cons_self).bind fun _ => ih fun b inside => each b (List.mem_cons_of_mem _ inside)

theorem respects_pure (a : α) : Respects R (pure a : EStateM ε σ α) := fun s => refl_of R s

theorem respects_mapM {f : α → EStateM ε σ β} {as : List α} (each : ∀ a ∈ as, Respects R (f a)) :
    Respects R (as.mapM f) := by
  induction as with
  | nil => exact respects_pure []
  | cons a as ih =>
    rw [List.mapM_cons]
    exact (each a List.mem_cons_self).bind fun b =>
      (ih fun a' inside => each a' (List.mem_cons_of_mem _ inside)).bind fun bs => respects_pure (b :: bs)

end

namespace Disk

variable {folder : Path} {d d' : Disk}

/-- What `d'` holds differs from what `d` holds only strictly below a folder, and in folders that were
missing on the way to it. -/
def Confined (folder : Path) (d d' : Disk) : Prop :=
  ∀ q, d'.find? q ≠ d.find? q →
    (folder <+: q ∧ q ≠ folder) ∨ (q <+: folder ∧ d.find? q = none ∧ d'.find? q = some .folder)

-- What `d'` holds differs from what `d` holds only at some places, and in folders that were missing on the
-- way to a place.
def Alters (places : Path → Prop) (p : Path) (d d' : Disk) : Prop :=
  ∀ q, d'.find? q ≠ d.find? q → places q ∨ (q <+: p ∧ d.find? q = none ∧ d'.find? q = some .folder)

instance (places : Path → Prop) (p : Path) : IsPreorder Disk (Alters places p) where
  refl d q changed := absurd rfl changed
  trans d d' d'' first later q changed := by
    by_cases same : d'.find? q = d.find? q
    · rw [← same] at changed ⊢
      exact later q changed
    · rcases first q same with inside | ⟨above, missing, made⟩
      · exact .inl inside
      · by_cases same' : d''.find? q = d'.find? q
        · exact .inr ⟨above, missing, same'.trans made⟩
        · rcases later q same' with inside | ⟨_, missing', _⟩
          · exact .inl inside
          · rw [made] at missing'
            cases missing'

theorem alters_put (places : Path → Prop) {p q : Path} (inside : places q) (e : Entry) :
    Alters places p d (d.put q e) := by
  intro r changed
  by_cases fits : d.takes q = true
  · rw [find?_put fits] at changed
    by_cases here : r = q
    · exact .inl (here ▸ inside)
    · rw [if_neg here] at changed
      exact absurd rfl changed
  · rw [put, dif_neg fits] at changed
    exact absurd rfl changed

instance (folder : Path) : IsPreorder Disk (Confined folder) :=
  inferInstanceAs (IsPreorder Disk (Alters (fun q => folder <+: q ∧ q ≠ folder) folder))

/-- What `d'` holds differs from what `d` holds only at a place and below it, and in folders that were
missing on the way to it. -/
def Within (p : Path) : Disk → Disk → Prop := Alters (p <+: ·) p

instance (p : Path) : IsPreorder Disk (Within p) := inferInstanceAs (IsPreorder Disk (Alters _ p))

theorem Gains.confined {p : Path} (gains : d.Gains d' p) (near : folder <+: p) : Confined folder d d' := by
  intro q changed
  obtain ⟨missing, made, before⟩ := (gains q).resolve_left changed
  by_cases above : q <+: folder
  · exact .inr ⟨above, missing, made⟩
  · have below := (List.prefix_or_prefix_of_prefix before near).resolve_left above
    exact .inl ⟨below, fun here => above (here ▸ List.prefix_rfl)⟩

theorem confined_put {p : Path} (below : folder <+: p) (proper : p ≠ folder) (e : Entry) :
    Confined folder d (d.put p e) :=
  alters_put (fun q => folder <+: q ∧ q ≠ folder) ⟨below, proper⟩ e

theorem Gains.within {p q : Path} (gains : d.Gains d' q) (near : q <+: p) : Within p d d' := by
  intro r changed
  obtain ⟨missing, made, before⟩ := (gains r).resolve_left changed
  exact .inr ⟨before.trans near, missing, made⟩

theorem within_put {p q : Path} (below : p <+: q) (e : Entry) : Within p d (d.put q e) :=
  alters_put (p <+: ·) below e

section

variable {R : Disk → Disk → Prop} {source target : Path}

theorem respects_ensureFolder_of {p : Path} (gains : ∀ d d' : Disk, d.Gains d' p.bare → R d d') :
    Respects R (ensureFolder p) := by
  intro d
  cases made : ensureFolder p d with
  | ok _ d' =>
    rw [final_ok made]
    exact gains d d' (gains_of_ensureFolder (.inl made))
  | error x d' =>
    rw [final_error made]
    exact gains d d' (gains_of_ensureFolder (.inr ⟨x, made⟩))

variable [IsPreorder Disk R]

theorem respects_check (f : Disk → Except DiskError Unit) : Respects R (check f) := by
  intro d
  have same : final (check f) d = d := by
    unfold final check
    cases f d <;> rfl
  rw [same]
  exact refl_of R d

theorem final_attempt_ok {f : Disk → Except DiskError Disk} (ran : f d = .ok d') : final (attempt f) d = d' :=
  final_ok (attempt_ok_iff.2 ran)

-- A change that fails leaves the disk alone.
theorem final_attempt_error {f : Disk → Except DiskError Disk} {x : DiskError} (failed : f d = .error x) :
    final (attempt f) d = d :=
  final_error (attempt_error failed)

theorem respects_writeFile_of {p : Path} {contents : ByteArray} (puts : ∀ d : Disk, R d (d.put p (.file contents))) :
    Respects R (attempt fun d => d.writeFile p contents) := by
  intro d
  cases written : d.writeFile p contents with
  | ok d' =>
    rw [final_attempt_ok written, (writeFile_ok written).2]
    exact puts d
  | error x =>
    rw [final_attempt_error written]
    exact refl_of R d

-- The children of a folder are copied below it, one after the other.
theorem respects_copyTree_of (fuel : Nat) (source : Path)
    (puts : ∀ (d : Disk) q e, target <+: q → R d (d.put q e)) : Respects R (copyTree fuel source target) := by
  induction fuel generalizing source target with
  | zero => exact fun d => refl_of R d
  | succ fuel ih =>
    intro d
    have inner : Respects R ((d.children source).forM fun child => do
        check fun d => d.checkCopy (source ++ [child.1]) (target ++ [child.1])
        copyTree fuel (source ++ [child.1]) (target ++ [child.1])) := by
      apply respects_forM
      intro child _
      exact (respects_check _).bind fun _ =>
        ih (source ++ [child.1]) fun d q e below => puts d q e ((List.prefix_append _ _).trans below)
    have added : R d (d.addFolder target) := by
      unfold addFolder
      split_ifs
      · exact refl_of R d
      · exact puts d target .folder List.prefix_rfl
    unfold final
    rw [copyTree, get_bind]
    cases d.find? source with
    | none => exact refl_of R d
    | some e =>
      cases e with
      | file contents => exact puts d target _ List.prefix_rfl
      | folder => exact trans_of R added (inner (d.addFolder target))

theorem respects_copy_of (gains : ∀ d d' : Disk, d.Gains d' target.parent.bare → R d d')
    (puts : ∀ (d : Disk) q e, target.bare <+: q → R d (d.put q e)) : Respects R (copy source target) := by
  refine (respects_check _).bind fun _ => (respects_ensureFolder_of gains).bind fun _ => ?_
  intro d
  exact respects_copyTree_of _ _ puts d

end

theorem respects_ensureFolder {p : Path} (near : folder <+: p.bare) : Respects (Confined folder) (ensureFolder p) :=
  respects_ensureFolder_of fun _ _ gains => gains.confined near

theorem respects_writeFile {p : Path} (below : folder <+: p) (proper : p ≠ folder) (contents : ByteArray) :
    Respects (Confined folder) (attempt fun d => d.writeFile p contents) :=
  respects_writeFile_of fun _ => confined_put below proper _

theorem prefix_parent {p : Path} (plain : p.IsPlain) (below : folder <+: p) (proper : p ≠ folder) :
    folder <+: p.parent.bare := by
  have above : Path.IsPlain p.dropLast := plain.above (List.dropLast_prefix p)
  rw [Path.parent, plain.bare, above.bare]
  rcases List.eq_nil_or_concat p with rfl | ⟨init, name, rfl⟩
  · exact below
  · rw [List.concat_eq_append] at below proper ⊢
    rw [List.dropLast_concat]
    exact (List.prefix_concat_iff.1 below).resolve_left (Ne.symm proper)

-- Whatever lies below a place that is strictly below a folder is itself strictly below the folder.
theorem respects_copy (source : Path) {target : Path} (plain : target.IsPlain) (below : folder <+: target)
    (proper : target ≠ folder) : Respects (Confined folder) (copy source target) := by
  refine respects_copy_of (fun _ _ gains => gains.confined (prefix_parent plain below proper)) fun d q e under => ?_
  rw [plain.bare] at under
  refine confined_put (below.trans under) ?_ e
  rintro rfl
  exact proper (under.eq_of_length_le below.length_le)

end Disk

end Wheelhouse
