import Wheelhouse.Proofs.Disk.Containment
import Wheelhouse.Proofs.Disk.Locality
import Wheelhouse.Proofs.Disk.Walk

/-!
Disks in step. Two disks that hold the same at the places that a change comes upon, and list the folders that it
copies in the same order, are changed alike and hold the same there afterwards, however much they differ elsewhere.
-/

set_option autoImplicit false

namespace Wheelhouse

section

variable {ε σ α β : Type} {R S : σ → σ → Prop}

/-- Two runs that end alike: with the same value or the same error, and in related states. -/
inductive SameEnd (R : σ → σ → Prop) : EStateM.Result ε σ α → EStateM.Result ε σ α → Prop
  | ok {a : α} {s s' : σ} (left : R s s') : SameEnd R (.ok a s) (.ok a s')
  | error {e : ε} {s s' : σ} (left : R s s') : SameEnd R (.error e s) (.error e s')

theorem SameEnd.mono {r r' : EStateM.Result ε σ α} (same : SameEnd R r r') (weaker : ∀ s s', R s s' → S s s') :
    SameEnd S r r' := by
  cases same with
  | ok left => exact .ok (weaker _ _ left)
  | error left => exact .error (weaker _ _ left)

theorem SameEnd.of_final {t t' : EStateM ε σ α} {s s' : σ} (same : SameEnd R (t s) (t' s'))
    (left : R (final t s) (final t' s') → S (final t s) (final t' s')) : SameEnd S (t s) (t' s') := by
  unfold final at left
  generalize t s = r at same left ⊢
  generalize t' s' = r' at same left ⊢
  cases same with
  | ok related => exact .ok (left related)
  | error related => exact .error (left related)

theorem SameEnd.bind {x x' : EStateM ε σ α} {f f' : α → EStateM ε σ β} {s s' : σ} (first : SameEnd R (x s) (x' s'))
    (later : ∀ a u u', x s = .ok a u → R u u' → SameEnd R (f a u) (f' a u')) :
    SameEnd R ((x >>= f) s) ((x' >>= f') s') := by
  change SameEnd R (EStateM.bind x f s) (EStateM.bind x' f' s')
  unfold EStateM.bind
  generalize x s = r at first later ⊢
  generalize x' s' = r' at first ⊢
  cases first with
  | ok left => exact later _ _ _ rfl left
  | error left => exact .error left

theorem sameEnd_forM {f f' : α → EStateM ε σ Unit} {as : List α}
    (each : ∀ a ∈ as, ∀ s s', R s s' → SameEnd R (f a s) (f' a s')) {s s' : σ} (start : R s s') :
    SameEnd R (as.forM f s) (as.forM f' s') := by
  induction as generalizing s s' with
  | nil => exact .ok start
  | cons a as ih =>
    exact (each a List.mem_cons_self s s' start).bind fun _ _ _ _ left =>
      ih (fun b inside => each b (List.mem_cons_of_mem _ inside)) left

end

/-- The places that lie on the way to a place, or at and below it. -/
def Path.Meets (p q : Path) : Prop := q <+: p ∨ p <+: q

theorem Path.Meets.of_child {p q : Path} {name : String} (near : Path.Meets (p ++ [name]) q) : p.Meets q := by
  rcases near with before | below
  · rcases List.prefix_concat_iff.1 before with rfl | before
    · exact .inr (List.prefix_append _ _)
    · exact .inl before
  · exact .inr ((List.prefix_append _ _).trans below)

-- Entries at other places come and go without being seen.
theorem Entries.filter_put (keeps : Path → Bool) (p : Path) (e : Entry) (entries : List (Path × Entry)) :
    (Entries.put p e entries).filter (fun x => keeps x.1) =
      if keeps p then Entries.put p e (entries.filter fun x => keeps x.1) else entries.filter fun x => keeps x.1 := by
  induction entries with
  | nil => by_cases kept : keeps p = true <;> simp [Entries.put, kept]
  | cons x rest ih =>
    obtain ⟨q, old⟩ := x
    by_cases here : q = p
    · subst here
      by_cases kept : keeps q = true <;> simp [Entries.put, kept]
    · by_cases kept : keeps p = true <;> by_cases kept' : keeps q = true <;> simp_all [Entries.put]

namespace Disk

variable {seen ordered : Path → Prop} {d d' : Disk} {p q source target : Path}

/-- The entries of a disk that lie directly in a folder, in the order of the disk. -/
def entriesIn (d : Disk) (p : Path) : List (Path × Entry) := d.entries.filter fun x => (childName? p x.1).isSome

theorem children_eq (d : Disk) (p : Path) :
    d.children p = (d.entriesIn p).filterMap fun x => (childName? p x.1).map fun name => (name, x.2) := by
  rw [children, entriesIn, List.filterMap_filter]
  apply List.filterMap_congr
  intro x _
  cases childName? p x.1 <;> rfl

theorem entriesIn_eq (d : Disk) (p : Path) : d.entriesIn p = (d.children p).map fun c => (p ++ [c.1], c.2) := by
  rw [children, List.map_filterMap, entriesIn, ← List.filterMap_eq_filter]
  apply List.filterMap_congr
  intro x _
  cases child : childName? p x.1 with
  | none => simp [Option.guard, child]
  | some name => simp [Option.guard, child, ← childName?_eq_some_iff.1 child]

-- Where something is put decides, with what lies in a folder, what lies in the folder then.
theorem children_put_congr (fits : d.takes p = true) (fits' : d'.takes p = true) (same : d'.children q = d.children q)
    (e : Entry) : (d'.put p e).children q = (d.put p e).children q := by
  have entries (f : Disk) (fits : f.takes p = true) : (f.put p e).entriesIn q =
      if (childName? q p).isSome then Entries.put p e (f.entriesIn q) else f.entriesIn q := by
    rw [entriesIn, put, dif_pos fits]
    exact Entries.filter_put (fun r => (childName? q r).isSome) p e f.entries
  rw [children_eq, children_eq, entries d fits, entries d' fits', entriesIn_eq, entriesIn_eq, same]

/-- Two disks that hold the same at some places, and list some folders in the same order. -/
structure SameAt (seen ordered : Path → Prop) (d d' : Disk) : Prop where
  there : ∀ q, seen q → d'.find? q = d.find? q
  order : ∀ q, ordered q → d'.children q = d.children q

-- What goes on in the system's own words when a path does not lead anywhere depends on the places on its way only.
theorem obstacle_eq {names : List String} {p : Path} (same : ∀ q, q <+: p ++ names → d'.find? q = d.find? q) :
    d'.obstacle p names = d.obstacle p names := by
  induction names generalizing p with
  | nil => rfl
  | cons name rest ih =>
    have here := same (p ++ [name]) ⟨rest, by simp⟩
    have later := ih (p := p ++ [name]) fun q before => same q (by simpa using before)
    simp only [obstacle, here, later]

theorem absence_eq (same : ∀ q, q <+: p → d'.find? q = d.find? q) : d'.absence p = d.absence p := by
  rw [absence, absence, obstacle_eq (p := []) same]

theorem refusal_eq (same : ∀ q, q <+: p → d'.find? q = d.find? q) (call : String) : d'.refusal call p = d.refusal call p := by
  rw [refusal, refusal, absence_eq same]

theorem isFolder_eq (same : d'.find? p = d.find? p) : d'.isFolder p = d.isFolder p := by
  rw [isFolder, isFolder, same]

namespace SameAt

theorem put (h : SameAt seen ordered d d') (here : seen p) (parent : seen p.dropLast) (e : Entry) :
    SameAt seen ordered (d.put p e) (d'.put p e) := by
  have both : d'.takes p = d.takes p := by
    rw [takes, takes, isFolder_eq (h.there p here), isFolder_eq (h.there _ parent)]
  by_cases fits : d.takes p = true
  · have fits' := both.trans fits
    refine ⟨fun q inside => ?_, fun q inside => children_put_congr fits fits' (h.order q inside) e⟩
    rw [find?_put fits, find?_put fits', h.there q inside]
  · rw [Disk.put, Disk.put, dif_neg fits, dif_neg (by rwa [both])]
    exact h

theorem addFolder (h : SameAt seen ordered d d') (here : seen p) (parent : seen p.dropLast) :
    SameAt seen ordered (d.addFolder p) (d'.addFolder p) := by
  unfold Disk.addFolder
  rw [h.there p here]
  split_ifs
  · exact h
  · exact h.put here parent _

theorem foldl_addFolder (way : List Path) (inside : ∀ q ∈ way, seen q ∧ seen q.dropLast) (h : SameAt seen ordered d d') :
    SameAt seen ordered (way.foldl Disk.addFolder d) (way.foldl Disk.addFolder d') := by
  induction way generalizing d d' with
  | nil => exact h
  | cons q way ih =>
    obtain ⟨here, parent⟩ := inside q List.mem_cons_self
    exact ih (fun r member => inside r (List.mem_cons_of_mem _ member)) (h.addFolder here parent)

-- Nothing is at a path that ends in an empty name.
theorem on_way (h : SameAt seen ordered d d') (way : ∀ q, q <+: p.bare → seen q) :
    ∀ q, q <+: p → d'.find? q = d.find? q := by
  intro q before
  by_cases marked : p.isMarked = true
  · by_cases whole : q = p
    · subst whole
      have absent (f : Disk) : f.find? q = none := by
        by_contra found
        rw [(isPlain_of_find? found).unmarked] at marked
        cases marked
      rw [absent, absent]
    · obtain ⟨rest, rfl⟩ := before
      have filled : rest ≠ [] := by simpa using whole
      apply h.there
      apply way
      rw [Path.bare, if_pos marked, List.dropLast_append_of_ne_nil filled]
      exact List.prefix_append _ _
  · rw [Path.bare, if_neg marked] at way
    exact h.there q (way q before)

theorem ensureFolder (h : SameAt seen ordered d d') (way : ∀ q, q <+: p.bare → seen q) :
    SameEnd (SameAt seen ordered) (Disk.ensureFolder p d) (Disk.ensureFolder p d') := by
  have same := h.on_way way
  have file : d'.file? p = d.file? p := by rw [Disk.file?, Disk.file?, same p List.prefix_rfl]
  have made := h.foldl_addFolder (ancestry (p.bare.takeWhile fun name => !Path.isTooLong name)) fun q member => by
    have before : q <+: p.bare := (mem_ancestry.1 member).1.trans (List.takeWhile_prefix _)
    exact ⟨way q before, way _ ((List.dropLast_prefix q).trans before)⟩
  rw [ensureFolder_eq, ensureFolder_eq]
  simp only [absence_eq same, refusal_eq same, file]
  split_ifs
  · exact .error h
  · exact .error h
  · exact .error h
  · exact .error made
  · exact .ok made

theorem checkCopy (h : SameAt seen ordered d d') (read : seen source) (found : d.find? source ≠ none)
    (plain : target.IsPlain) (way : ∀ q, q <+: target → seen q) : d'.checkCopy source target = d.checkCopy source target := by
  have sourcePlain := isPlain_of_find? found
  have same : ∀ q, q <+: target → d'.find? q = d.find? q := fun q before => h.there q (way q before)
  have parent : d'.isFolder target.parent = d.isFolder target.parent := by
    rw [Path.parent, plain.bare]
    exact isFolder_eq (same _ (List.dropLast_prefix _))
  unfold Disk.checkCopy inspect
  rw [at?_of_isPlain sourcePlain, at?_of_isPlain sourcePlain, at?_of_isPlain plain, at?_of_isPlain plain,
    h.there source read, same target List.prefix_rfl, absence_eq same, refusal_eq same, parent]
  obtain ⟨e, there⟩ := Option.ne_none_iff_exists'.1 found
  rw [there]

end SameAt

/-- How a disk grows by what is copied below a place: nothing is removed, and what is new lies below the place and
no deeper than a depth. -/
structure Grows (target : Path) (depth : Nat) (d d' : Disk) : Prop where
  kept : ∀ q, d.find? q ≠ none → d'.find? q ≠ none
  only : ∀ q, d'.find? q ≠ none → d.find? q ≠ none ∨ target <+: q ∧ q.length ≤ target.length + depth

namespace Grows

variable {d'' : Disk} {depth : Nat}

theorem refl (target : Path) (depth : Nat) (d : Disk) : Grows target depth d d := ⟨fun _ => id, fun _ => .inl⟩

theorem trans (first : Grows target depth d d') (later : Grows target depth d' d'') : Grows target depth d d'' where
  kept q found := later.kept q (first.kept q found)
  only q found := (later.only q found).elim (first.only q) .inr

theorem put (target : Path) (depth : Nat) (d : Disk) (e : Entry) : Grows target depth d (d.put target e) := by
  by_cases fits : d.takes target = true
  · constructor
    · intro q found
      rw [find?_put fits]
      split_ifs
      · simp
      · exact found
    · intro q found
      rw [find?_put fits] at found
      split_ifs at found with here
      · subst here
        exact .inr ⟨List.prefix_rfl, Nat.le_add_right _ _⟩
      · exact .inl found
  · rw [Disk.put, dif_neg fits]
    exact refl target depth d

theorem addFolder (target : Path) (depth : Nat) (d : Disk) : Grows target depth d (d.addFolder target) := by
  unfold Disk.addFolder
  split_ifs
  · exact refl target depth d
  · exact put target depth d _

theorem of_child {name : String} (grows : Grows (target ++ [name]) depth d d') : Grows target (depth + 1) d d' where
  kept := grows.kept
  only q found := by
    refine (grows.only q found).imp id fun ⟨under, short⟩ => ⟨(List.prefix_append _ _).trans under, ?_⟩
    rw [List.length_append, List.length_singleton] at short
    omega

end Grows

/-- Whether nothing lies deeper below a place than a depth. -/
def IsShallow (d : Disk) (source : Path) (depth : Nat) : Prop :=
  ∀ q, source <+: q → d.find? q ≠ none → q.length ≤ source.length + depth

-- Copying to a place that is not in the source makes the source no deeper.
theorem IsShallow.grows {depth : Nat} (shallow : d.IsShallow source depth) (apart : ¬source <+: target)
    (grows : Grows target depth d d') : d'.IsShallow source depth := by
  intro q under found
  rcases grows.only q found with old | ⟨under', short⟩
  · exact shallow q under old
  · have above := (List.prefix_or_prefix_of_prefix under under').resolve_left apart
    have lengths := above.length_le
    omega

theorem IsShallow.child {depth : Nat} {name : String} (shallow : d.IsShallow source (depth + 1)) :
    d.IsShallow (source ++ [name]) depth := by
  intro q under found
  have short := shallow q ((List.prefix_append _ _).trans under) found
  rw [List.length_append, List.length_singleton]
  omega

-- A folder is not copied into itself.
theorem not_prefix_of_checkCopy (folder : d.find? source = some .folder) (plain : target.IsPlain)
    (checked : d.checkCopy source target = .ok ()) : ¬source <+: target := by
  intro before
  have sourcePlain : source.IsPlain := isPlain_of_find? (by rw [folder]; simp)
  have inside : source.isPrefixOf target = true := List.isPrefixOf_iff_prefix.2 before
  unfold checkCopy inspect at checked
  rw [at?_of_isPlain sourcePlain, folder, at?_of_isPlain plain, sourcePlain.bare, plain.bare] at checked
  cases there : d.find? target with
  | none =>
    rw [there] at checked
    by_cases refused : (d.absence target != .notFound || target.hasNull) = true <;>
      simp [refused, inside, Entry.isFolder, bind, Except.bind, throw, throwThe, MonadExceptOf.throw]
        at checked
  | some e =>
    rw [there] at checked
    by_cases same : source = target <;> cases e <;>
      simp [same, inside, Entry.isFolder, bind, Except.bind, throw, throwThe, MonadExceptOf.throw]
        at checked

theorem not_prefix_child {name : String} (apart : ¬source <+: target) : ¬source ++ [name] <+: target ++ [name] := by
  intro before
  have lengths := before.length_le
  simp only [List.length_append, List.length_singleton, Nat.add_le_add_iff_right] at lengths
  have above : source <+: target ++ [name] := (List.prefix_append _ _).trans before
  exact apart (List.prefix_of_prefix_length_le above (List.prefix_append _ _) lengths)

namespace SameAt

theorem check (h : SameAt seen ordered d d') (read : seen source) (found : d.find? source ≠ none)
    (plain : target.IsPlain) (way : ∀ q, q <+: target → seen q) {R : Disk → Disk → Prop} (related : R d d') :
    SameEnd R (Disk.check (fun d => d.checkCopy source target) d) (Disk.check (fun d => d.checkCopy source target) d') := by
  simp only [Disk.check, h.checkCopy read found plain way]
  cases d.checkCopy source target with
  | ok _ => exact .ok related
  | error e => exact .error related

-- The walk goes down both disks at once; fuel beyond the depth of the source makes no difference.
theorem copyTree {depth fuel fuel' : Nat} (h : SameAt seen ordered d d') (reads : ∀ q, source <+: q → seen q ∧ ordered q)
    (plain : target.IsPlain) (writes : ∀ q, target.Meets q → seen q)
    (apart : d.find? source = some .folder → ¬source <+: target) (shallow : d.IsShallow source depth)
    (enough : depth < fuel) (enough' : depth < fuel') :
    SameEnd (fun u u' => SameAt seen ordered u u' ∧ Grows target depth d u) (Disk.copyTree fuel source target d)
      (Disk.copyTree fuel' source target d') := by
  induction fuel generalizing source target depth fuel' d d' with
  | zero => omega
  | succ fuel ih =>
    obtain ⟨fuel', rfl⟩ : ∃ n, fuel' = n + 1 := ⟨fuel' - 1, by omega⟩
    have here : seen target := writes target (.inl List.prefix_rfl)
    have parent : seen target.dropLast := writes _ (.inl (List.dropLast_prefix target))
    obtain ⟨read, listed⟩ := reads source List.prefix_rfl
    rw [Disk.copyTree, Disk.copyTree, get_bind, get_bind, h.there source read]
    cases found : d.find? source with
    | none => exact .ok ⟨h, .refl target depth d⟩
    | some e =>
      cases e with
      | file contents => exact .ok ⟨h.put here parent _, .put target depth d _⟩
      | folder =>
        rw [h.order source listed]
        have made : SameAt seen ordered (d.addFolder target) (d'.addFolder target) ∧
            Grows target depth d (d.addFolder target) :=
          ⟨h.addFolder here parent, .addFolder target depth d⟩
        refine sameEnd_forM (fun child member u u' related => ?_) made
        have there : d.find? (source ++ [child.1]) ≠ none := by simp [mem_children.1 member]
        have deep := shallow (source ++ [child.1]) (List.prefix_append _ _) there
        rw [List.length_append, List.length_singleton] at deep
        obtain ⟨depth, rfl⟩ : ∃ n, depth = n + 1 := ⟨depth - 1, by omega⟩
        have reads' : ∀ q, source ++ [child.1] <+: q → seen q ∧ ordered q :=
          fun q below => reads q ((List.prefix_append _ _).trans below)
        have writes' : ∀ q, Path.Meets (target ++ [child.1]) q → seen q := fun q near => writes q near.of_child
        have plain' : Path.IsPlain (target ++ [child.1]) := plain.append (isPlain_of_find? there).right
        refine SameEnd.bind (related.1.check (reads' _ List.prefix_rfl).1 (related.2.kept _ there) plain'
          (fun q before => writes' q (.inl before)) related) ?_
        intro _ v v' _ left
        refine (ih left.1 reads' plain' writes' (fun _ => not_prefix_child (apart found))
          (shallow.grows (apart found) left.2).child (by omega) (by omega)).mono fun t t' copied => ?_
        exact ⟨copied.1, left.2.trans copied.2.of_child⟩

theorem copy (h : SameAt seen ordered d d') (reads : ∀ q, source <+: q → seen q ∧ ordered q)
    (found : d.find? source ≠ none) (plain : target.IsPlain) (writes : ∀ q, target.Meets q → seen q) :
    SameEnd (SameAt seen ordered) (Disk.copy source target d) (Disk.copy source target d') := by
  have sourcePlain := isPlain_of_find? found
  have way : ∀ q, q <+: target → seen q := fun q before => writes q (.inl before)
  have made := h.ensureFolder (p := target.parent) fun q before => by
    have above := plain.above (List.dropLast_prefix target)
    rw [Path.parent, plain.bare, above.bare] at before
    exact way q (before.trans (List.dropLast_prefix target))
  rw [copy_eq, copy_eq, h.checkCopy (reads _ List.prefix_rfl).1 found plain way, sourcePlain.bare, plain.bare]
  cases checked : d.checkCopy source target with
  | error e => exact .error h
  | ok _ =>
    simp only
    cases ended : Disk.ensureFolder target.parent d with
    | error e u =>
      rw [ended] at made
      generalize Disk.ensureFolder target.parent d' = r' at made ⊢
      cases made with
      | error left => exact .error left
    | ok _ u =>
      have gains := gains_of_ensureFolder (.inl ended)
      rw [ended] at made
      generalize Disk.ensureFolder target.parent d' = r' at made ⊢
      cases made with
      | @ok _ _ u' left =>
        have apart : u.find? source = some .folder → ¬source <+: target := by
          intro folder
          rw [gains.kept found] at folder
          exact not_prefix_of_checkCopy folder plain checked
        have shallow : u.IsShallow source (min u.entries.length u'.entries.length) := by
          intro q below there
          have there' : u'.find? q ≠ none := by rwa [left.there q (reads q below).1]
          have short := length_le_entries there
          have short' := length_le_entries there'
          omega
        exact (left.copyTree reads plain writes apart shallow (by omega) (by omega)).mono fun _ _ copied => copied.1

end SameAt

end Disk

end Wheelhouse
