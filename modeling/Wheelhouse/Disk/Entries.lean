import Wheelhouse.Disk.Path

/-!
The contents of a disk: which files and folders there are. Every entry but those at the root lies in a
folder, no place is taken twice, and every name is one that the system takes. `Disk.put` and `Disk.erase` are
the only changes, and their effect on every place is given by `find?_put` and `find?_erase`.
-/

set_option autoImplicit false

namespace Wheelhouse

inductive Entry where
  | file (contents : ByteArray)
  | folder

def Entry.isFolder : Entry → Bool
  | .folder => true
  | .file _ => false

namespace Entries

def put (p : Path) (e : Entry) : List (Path × Entry) → List (Path × Entry)
  | [] => [(p, e)]
  | (q, old) :: rest => if q = p then (p, e) :: rest else (q, old) :: put p e rest

def erase (p : Path) (entries : List (Path × Entry)) : List (Path × Entry) :=
  entries.filter fun x => !p.isPrefixOf x.1

theorem lookup_put (p q : Path) (e : Entry) (entries : List (Path × Entry)) :
    (put p e entries).lookup q = if q = p then some e else entries.lookup q := by
  induction entries with
  | nil =>
    by_cases h : q = p
    · simp [put, h]
    · simp [put, List.lookup_cons, h, beq_false_of_ne h]
  | cons x rest ih =>
    obtain ⟨r, old⟩ := x
    by_cases hr : r = p
    · subst hr
      by_cases h : q = r
      · simp [put, h]
      · simp [put, List.lookup_cons, h, beq_false_of_ne h]
    · by_cases h : q = r
      · subst h
        simp [put, hr]
      · simp [put, hr, List.lookup_cons, beq_false_of_ne h, ih]

theorem mem_keys_put {p q : Path} {e : Entry} {entries : List (Path × Entry)} :
    q ∈ (put p e entries).map Prod.fst ↔ q = p ∨ q ∈ entries.map Prod.fst := by
  induction entries with
  | nil => simp [put]
  | cons x rest ih =>
    obtain ⟨r, old⟩ := x
    by_cases hr : r = p
    · subst hr
      simp [put]
    · simp only [put, if_neg hr, List.map_cons, List.mem_cons, ih]
      constructor
      · rintro (h | h | h) <;> simp [h]
      · rintro (h | h | h) <;> simp [h]

theorem nodup_put {p : Path} {e : Entry} {entries : List (Path × Entry)}
    (h : (entries.map Prod.fst).Nodup) : ((put p e entries).map Prod.fst).Nodup := by
  induction entries with
  | nil => simp [put]
  | cons x rest ih =>
    obtain ⟨r, old⟩ := x
    rw [List.map_cons, List.nodup_cons] at h
    by_cases hr : r = p
    · subst hr
      simp only [put, if_pos, List.map_cons, List.nodup_cons]
      exact h
    · simp only [put, if_neg hr, List.map_cons, List.nodup_cons]
      refine ⟨fun hm => ?_, ih h.2⟩
      rcases mem_keys_put.1 hm with hm | hm
      · exact hr hm
      · exact h.1 hm

theorem lookup_erase (p q : Path) (entries : List (Path × Entry)) :
    (erase p entries).lookup q = if p.isPrefixOf q then none else entries.lookup q := by
  induction entries with
  | nil => simp [erase]
  | cons x rest ih =>
    obtain ⟨r, old⟩ := x
    rw [erase, List.filter_cons]
    by_cases hr : p.isPrefixOf r = true
    · have hkeep : (!p.isPrefixOf (r, old).1) = false := by simp [hr]
      rw [if_neg (by simp [hkeep])]
      rw [erase] at ih
      rw [ih]
      by_cases h : q = r
      · subst h
        simp [hr]
      · simp [List.lookup_cons, beq_false_of_ne h]
    · have hkeep : p.isPrefixOf r = false := by simpa only [Bool.not_eq_true] using hr
      rw [if_pos (by simp only [hkeep, Bool.not_false])]
      rw [erase] at ih
      by_cases h : q = r
      · subst h
        simp [hr]
      · simp [List.lookup_cons, beq_false_of_ne h, ih]

end Entries

structure Disk where
  entries : List (Path × Entry)
  nodup : (entries.map Prod.fst).Nodup
  rooted : [] ∉ entries.map Prod.fst
  closed : ∀ p, entries.lookup p ≠ none →
    p.dropLast = [] ∨ entries.lookup p.dropLast = some .folder
  named : ∀ p ∈ entries.map Prod.fst, ∀ name ∈ p, Path.isName name = true

namespace Disk

def empty : Disk where
  entries := []
  nodup := by simp
  rooted := by simp
  closed := by simp
  named := by simp

/-- What is at a place; the root is a folder. -/
def find? (d : Disk) (p : Path) : Option Entry :=
  if p = [] then some .folder else d.entries.lookup p

def isFolder (d : Disk) (p : Path) : Bool :=
  match d.find? p with
  | some .folder => true
  | _ => false

def file? (d : Disk) (p : Path) : Option ByteArray :=
  match d.find? p with
  | some (.file contents) => some contents
  | _ => none

theorem isFolder_iff {d : Disk} {p : Path} : d.isFolder p = true ↔ d.find? p = some .folder := by
  unfold isFolder
  split <;> simp_all

theorem isFolder_parent {d : Disk} {p : Path} (h : d.find? p ≠ none) :
    d.isFolder p.dropLast = true := by
  rw [isFolder_iff, find?]
  by_cases hp : p = []
  · simp [hp]
  · rw [find?, if_neg hp] at h
    split
    · rfl
    · exact (d.closed p h).resolve_left (by assumption)

/-- Whether an entry may be put at a place: not at the root, not instead of a folder, only in a folder,
and only under a name. -/
def takes (d : Disk) (p : Path) : Bool :=
  p ≠ [] && d.isFolder p.dropLast && !d.isFolder p && p.all Path.isName

theorem takes_iff {d : Disk} {p : Path} : d.takes p = true ↔
    p ≠ [] ∧ d.isFolder p.dropLast = true ∧ d.isFolder p = false ∧
      ∀ name ∈ p, Path.isName name = true := by
  simp [takes, and_assoc]

theorem closed_put {d : Disk} {p : Path} {e : Entry} (h : d.takes p = true) (q : Path)
    (hq : (Entries.put p e d.entries).lookup q ≠ none) :
    q.dropLast = [] ∨ (Entries.put p e d.entries).lookup q.dropLast = some .folder := by
  obtain ⟨hp, hparent, hfolder, _⟩ := takes_iff.1 h
  have hne : p.dropLast ≠ p := fun h => by
    have := congrArg List.length h
    rw [List.length_dropLast] at this
    have := List.length_pos_iff.2 hp
    omega
  rw [Entries.lookup_put] at hq ⊢
  by_cases hqp : q = p
  · subst hqp
    rw [isFolder_iff, find?] at hparent
    rw [if_neg hne]
    split at hparent
    · exact Or.inl (by assumption)
    · exact Or.inr hparent
  · rw [if_neg hqp] at hq
    rcases d.closed q hq with h | h
    · exact Or.inl h
    · by_cases hqd : q.dropLast = p
      · rw [hqd] at h
        have : d.isFolder p = true := by rw [isFolder_iff, find?, if_neg hp, h]
        rw [this] at hfolder
        exact absurd hfolder (by decide)
      · rw [if_neg hqd]
        exact Or.inr h

def put (d : Disk) (p : Path) (e : Entry) : Disk :=
  if h : d.takes p = true then
    { entries := Entries.put p e d.entries
      nodup := Entries.nodup_put d.nodup
      rooted := fun hm =>
        (Entries.mem_keys_put.1 hm).elim (fun hp => (takes_iff.1 h).1 hp.symm) d.rooted
      closed := closed_put h
      named := fun q hq => (Entries.mem_keys_put.1 hq).elim
        (fun hqp => hqp ▸ (takes_iff.1 h).2.2.2) (d.named q) }
  else d

theorem find?_put {d : Disk} {p : Path} {e : Entry} (h : d.takes p = true) (q : Path) :
    (d.put p e).find? q = if q = p then some e else d.find? q := by
  have hp : p ≠ [] := (takes_iff.1 h).1
  rw [put, dif_pos h]
  simp only [find?, Entries.lookup_put]
  by_cases hq : q = []
  · subst hq
    simp [Ne.symm hp]
  · simp [hq]

theorem isPrefixOf_of_dropLast {p q : Path} (h : p.isPrefixOf q.dropLast = true) :
    p.isPrefixOf q = true := by
  rw [List.isPrefixOf_iff_prefix] at h ⊢
  exact h.trans (List.dropLast_prefix q)

def erase (d : Disk) (p : Path) : Disk where
  entries := Entries.erase p d.entries
  nodup := d.nodup.sublist (List.filter_sublist.map _)
  rooted := fun h => d.rooted ((List.filter_sublist.map _).subset h)
  closed := fun q hq => by
    rw [Entries.lookup_erase] at hq ⊢
    split at hq
    · exact absurd rfl hq
    · rename_i hnot
      rcases d.closed q hq with h | h
      · exact Or.inl h
      · rw [if_neg fun hp => hnot (isPrefixOf_of_dropLast hp)]
        exact Or.inr h
  named := fun q hq => d.named q ((List.filter_sublist.map _).subset hq)

theorem find?_erase {d : Disk} {p q : Path} (hp : p ≠ []) :
    (d.erase p).find? q = if p.isPrefixOf q then none else d.find? q := by
  simp only [find?, erase, Entries.lookup_erase]
  by_cases hq : q = []
  · subst hq
    cases p with
    | nil => exact absurd rfl hp
    | cons a p => simp
  · simp [hq]

def childName? (p q : Path) : Option String :=
  match q.getLast? with
  | some name => if q.dropLast = p then some name else none
  | none => none

def children (d : Disk) (p : Path) : List (String × Entry) :=
  d.entries.filterMap fun x => (childName? p x.1).map fun name => (name, x.2)

end Disk

end Wheelhouse
