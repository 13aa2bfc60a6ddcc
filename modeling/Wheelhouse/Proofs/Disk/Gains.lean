import Mathlib.Data.List.Induction
import Mathlib.Tactic.ByContra
import Mathlib.Tactic.SplitIfs
import Wheelhouse.Disk.Operations
import Wheelhouse.Proofs.Disk.Path

/-!
Disks that gain folders. What is on a disk lies in folders all the way from the root; making the folders
on the way to a place keeps all that is there.
-/

set_option autoImplicit false

namespace Wheelhouse

namespace Path

theorem join_append (sep : List Char) (xs ys : List (List Char)) :
    ∃ more, Text.join sep (xs ++ ys) = Text.join sep xs ++ more := by
  induction xs with
  | nil => exact ⟨_, rfl⟩
  | cons x xs ih =>
    obtain ⟨more, joined⟩ := ih
    cases xs with
    | nil =>
      cases ys with
      | nil => exact ⟨[], by simp [Text.join]⟩
      | cons y ys => exact ⟨sep ++ Text.join sep (y :: ys), by simp [Text.join]⟩
    | cons z zs => exact ⟨more, by simpa [Text.join] using joined⟩

theorem isFarTooLong_append {p q : Path} (short : (p ++ q).isFarTooLong = false) :
    p.isFarTooLong = false := by
  obtain ⟨more, joined⟩ := join_append "/".toList (p.map String.toList) (q.map String.toList)
  have longer : (p ++ q).text = p.text ++ String.ofList more := by
    rw [text, Text.joined, List.map_append, joined, String.ofList_append, ← String.append_assoc]
    rfl
  simp only [isFarTooLong, decide_eq_false_iff_not, Nat.not_le, longer,
    String.utf8ByteSize_append] at short ⊢
  omega

theorem isFarTooLong_above {p q : Path} (before : p <+: q) (short : q.isFarTooLong = false) :
    p.isFarTooLong = false := by
  obtain ⟨rest, rfl⟩ := before
  exact isFarTooLong_append short

theorem hasNull_of_isName {p : Path} (named : ∀ name ∈ p, isName name = true) : p.hasNull = false := by
  rw [hasNull, List.any_eq_false]
  intro name inside null
  exact (isName_iff.1 (named name inside)).2.2.2.2.1 (by simpa using null)

theorem isTooLong_of_isName {p : Path} (named : ∀ name ∈ p, isName name = true) :
    ∀ name ∈ p, isTooLong name = false :=
  fun name inside => (isName_iff.1 (named name inside)).2.2.2.2.2

end Path

namespace Entries

variable {entries entries' : List (Path × Entry)}

-- Of entries in different places the first one at a place is the only one there.
theorem mem_iff_lookup (apart : (entries.map Prod.fst).Nodup) {p : Path} {e : Entry} :
    (p, e) ∈ entries ↔ entries.lookup p = some e := by
  rw [List.lookup_eq_some_iff]
  constructor
  · intro inside
    obtain ⟨before, after, split⟩ := List.append_of_mem inside
    refine ⟨before, after, split, fun x earlier => ?_⟩
    rw [split, List.map_append, List.map_cons, List.nodup_append] at apart
    rw [bne_iff_ne]
    rintro rfl
    exact apart.2.2 _ (List.mem_map_of_mem earlier) _ List.mem_cons_self rfl
  · rintro ⟨before, after, split, _⟩
    simp [split]

theorem lookup_perm (perm : entries.Perm entries') (apart : (entries'.map Prod.fst).Nodup) (p : Path) :
    entries.lookup p = entries'.lookup p := by
  ext e
  rw [← mem_iff_lookup apart, ← mem_iff_lookup ((perm.map Prod.fst).nodup_iff.2 apart), perm.mem_iff]

end Entries

namespace Disk

variable {d d' : Disk}

theorem mem_entries_iff {p : Path} {e : Entry} : (p, e) ∈ d.entries ↔ p ≠ [] ∧ d.find? p = some e := by
  rw [Entries.mem_iff_lookup d.nodup]
  constructor
  · intro found
    have filled : p ≠ [] := by
      rintro rfl
      exact d.rooted (List.mem_map_of_mem ((Entries.mem_iff_lookup d.nodup).2 found))
    exact ⟨filled, by rwa [find?, if_neg filled]⟩
  · rintro ⟨filled, found⟩
    rwa [find?, if_neg filled] at found

theorem isName_of_find? {p : Path} (found : d.find? p ≠ none) : ∀ name ∈ p, Path.isName name = true := by
  intro name inside
  have some : p ≠ [] := by
    rintro rfl
    cases inside
  obtain ⟨e, found⟩ := Option.ne_none_iff_exists'.1 found
  exact d.named p (List.mem_map_of_mem (mem_entries_iff.2 ⟨some, found⟩)) name inside

theorem isPlain_of_find? {p : Path} (found : d.find? p ≠ none) : p.IsPlain :=
  .of_isName (isName_of_find? found)

theorem at?_of_isPlain {p : Path} (plain : p.IsPlain) : d.at? p = d.find? p := by
  rw [at?, plain.unmarked, if_neg (by decide)]

theorem file?_congr {p q : Path} (same : d'.find? p = d.find? q) : d'.file? p = d.file? q := by
  rw [file?, same, ← file?]

theorem has_congr {p : Path} (same : d'.find? p.bare = d.find? p.bare) : d'.has p = d.has p := by
  have place : p.isMarked = true ∨ p.bare = p := by
    by_cases marked : p.isMarked = true
    · exact .inl marked
    · exact .inr (Path.bare_of_not_isMarked (by simpa using marked))
  unfold has at? isFolder
  rcases place with marked | bare
  · simp only [marked, if_true, same]
  · rw [bare] at same
    simp only [bare, same]

theorem has_of_isPlain {p : Path} (plain : p.IsPlain) : d.has p = (d.find? p).isSome := by
  rw [has, at?_of_isPlain plain]

theorem file?_eq_some_iff {p : Path} {contents : ByteArray} :
    d.file? p = some contents ↔ d.find? p = some (.file contents) := by
  unfold file?
  split <;> simp_all

theorem found_of_file? {p : Path} (file : d.file? p ≠ none) : d.find? p ≠ none := by
  intro missing
  rw [file?, missing] at file
  exact file rfl

theorem isPlain_of_file? {p : Path} (file : d.file? p ≠ none) : p.IsPlain :=
  isPlain_of_find? (found_of_file? file)

theorem find?_nil : d.find? [] = some .folder := by simp [find?]

-- What holds something is a folder.
theorem find?_above {p q : Path} (found : d.find? q ≠ none) (before : p <+: q) (proper : p ≠ q) :
    d.find? p = some .folder := by
  obtain ⟨rest, rfl⟩ := before
  induction rest using List.reverseRecOn with
  | nil => exact absurd (List.append_nil p).symm proper
  | append_singleton rest name ih =>
    have parent := isFolder_iff.1 (isFolder_parent found)
    rw [← List.append_assoc, List.dropLast_concat] at parent
    by_cases last : rest = []
    · rw [last, List.append_nil] at parent
      exact parent
    · exact ih (by rw [parent]; simp) fun same => last (by simpa using same)

theorem find?_eq_none_below {p q : Path} (absent : d.find? p = none) (before : p <+: q) : d.find? q = none := by
  by_contra found
  by_cases same : p = q
  · exact found (same ▸ absent)
  · rw [find?_above found before same] at absent
    cases absent

theorem find?_eq_none_of_file {p q : Path} {contents : ByteArray} (file : d.find? p = some (.file contents))
    (before : p <+: q) (proper : p ≠ q) : d.find? q = none := by
  by_contra found
  have folder := find?_above found before proper
  rw [file] at folder
  cases folder

-- `d'` has all that `d` has, and besides only folders on the way to a place.
def Gains (d d' : Disk) (p : Path) : Prop :=
  ∀ q, d'.find? q = d.find? q ∨ (d.find? q = none ∧ d'.find? q = some .folder ∧ q <+: p)

namespace Gains

theorem refl (d : Disk) (p : Path) : d.Gains d p := fun _ => .inl rfl

theorem trans {d'' : Disk} {p : Path} (h : d.Gains d' p) (h' : d'.Gains d'' p) : d.Gains d'' p := by
  intro q
  rcases h q with same | ⟨missing, made, before⟩
  · rcases h' q with same' | ⟨missing, made, before⟩
    · exact .inl (same'.trans same)
    · exact .inr ⟨same ▸ missing, made, before⟩
  · rcases h' q with same' | ⟨missing', _⟩
    · exact .inr ⟨missing, same'.trans made, before⟩
    · rw [made] at missing'
      cases missing'

theorem kept {p q : Path} (h : d.Gains d' p) (found : d.find? q ≠ none) : d'.find? q = d.find? q :=
  (h q).resolve_right fun new => found new.1

theorem outside {p q : Path} (h : d.Gains d' p) (apart : ¬q <+: p) : d'.find? q = d.find? q :=
  (h q).resolve_right fun new => apart new.2.2

theorem file? {p : Path} (h : d.Gains d' p) (q : Path) : d'.file? q = d.file? q := by
  rcases h q with same | ⟨missing, made, _⟩
  · rw [file?_congr same]
  · rw [Disk.file?, made, Disk.file?, missing]

end Gains

theorem addFolder_gains (d : Disk) {p q : Path} (before : q <+: p) : d.Gains (d.addFolder q) p := by
  intro r
  unfold addFolder
  split_ifs with found
  · exact .inl rfl
  · have missing : d.find? q = none := by simpa using found
    by_cases taken : d.takes q = true
    · rw [find?_put taken]
      split_ifs with same
      · exact .inr ⟨same ▸ missing, rfl, same ▸ before⟩
      · exact .inl rfl
    · rw [put, dif_neg taken]
      exact .inl rfl

theorem foldl_addFolder_gains {p : Path} (way : List Path) (before : ∀ q ∈ way, q <+: p) (d : Disk) :
    d.Gains (way.foldl addFolder d) p := by
  induction way generalizing d with
  | nil => exact .refl d p
  | cons q way ih =>
    exact (addFolder_gains d (before q List.mem_cons_self)).trans
      (ih (fun r inside => before r (List.mem_cons_of_mem _ inside)) _)

theorem mem_ancestry {p q : Path} : q ∈ ancestry p ↔ q <+: p ∧ q ≠ [] := by
  simp only [ancestry, List.mem_map, List.mem_range]
  constructor
  · rintro ⟨n, bound, rfl⟩
    refine ⟨List.take_prefix _ _, ?_⟩
    cases p with
    | nil => simp at bound
    | cons _ _ => simp
  · rintro ⟨before, some⟩
    have positive := List.length_pos_iff.2 some
    have bound := before.length_le
    refine ⟨q.length - 1, by omega, ?_⟩
    rw [Nat.sub_add_cancel positive]
    exact (List.prefix_iff_eq_take.1 before).symm

theorem ancestry_append (p : Path) (name : String) :
    ancestry (p ++ [name]) = ancestry p ++ [p ++ [name]] := by
  simp only [ancestry, List.length_append, List.length_singleton, List.range_succ, List.map_append,
    List.map_singleton]
  congr 1
  · apply List.map_congr_left
    intro n bound
    exact List.take_append_of_le_length (List.mem_range.1 bound)
  · rw [← List.length_singleton (a := name), ← List.length_append, List.take_length]

-- Without a file in the way, the folders down to a place are there in the end.
theorem find?_foldl_addFolder {p : Path} (named : ∀ name ∈ p, Path.isName name = true)
    (clear : ∀ q, q <+: p → d.file? q = none) (q : Path) :
    ((ancestry p).foldl addFolder d).find? q = if q <+: p then some .folder else d.find? q := by
  induction p using List.reverseRecOn generalizing q with
  | nil =>
    by_cases here : q = []
    · simp [here, ancestry, find?_nil]
    · simp [here, ancestry]
  | append_singleton p name ih =>
    have earlier := ih (fun n inside => named n (List.mem_append_left _ inside))
      fun r before => clear r (before.trans (List.prefix_append _ _))
    rw [ancestry_append, List.foldl_append, List.foldl_cons, List.foldl_nil]
    generalize (ancestry p).foldl addFolder d = made at earlier
    have parent : made.find? p = some .folder := by rw [earlier, if_pos List.prefix_rfl]
    have fresh : made.find? (p ++ [name]) = d.find? (p ++ [name]) := by
      rw [earlier, if_neg]
      intro before
      have bound := before.length_le
      rw [List.length_append, List.length_singleton] at bound
      omega
    have split : q <+: p ++ [name] ↔ q = p ++ [name] ∨ q <+: p := by
      rw [List.prefix_concat_iff]
    unfold addFolder
    split_ifs with found below below
    · rw [earlier]
      rcases split.1 below with rfl | before
      · rw [← earlier, fresh]
        rw [fresh] at found
        have noFile := clear _ List.prefix_rfl
        unfold file? at noFile
        split at noFile
        · cases noFile
        · rename_i other
          match here : d.find? (p ++ [name]) with
          | none => simp [here] at found
          | some .folder => rfl
          | some (.file contents) => exact absurd here (other contents)
      · rw [if_pos before]
    · rw [earlier, if_neg fun before => below (split.2 (.inr before))]
    all_goals
      have missing : made.find? (p ++ [name]) = none := by simpa using found
      have taken : made.takes (p ++ [name]) = true := by
        refine takes_iff.2 ⟨by simp, ?_, ?_, named⟩
        · rw [List.dropLast_concat, isFolder_iff]
          exact parent
        · rw [isFolder, missing]
      rw [find?_put taken]
    · split_ifs with same
      · rfl
      · rw [earlier, if_pos ((split.1 below).resolve_left same)]
    · rw [if_neg fun same => below (split.2 (.inl same)), earlier,
        if_neg fun before => below (split.2 (.inr before))]

theorem foldl_addFolder_of_isFolder (way : List Path) (there : ∀ q ∈ way, d.find? q = some .folder) :
    way.foldl addFolder d = d := by
  induction way with
  | nil => rfl
  | cons q way ih =>
    have still : d.addFolder q = d := by simp [addFolder, there q List.mem_cons_self]
    rw [List.foldl_cons, still]
    exact ih fun r inside => there r (List.mem_cons_of_mem _ inside)

end Disk

end Wheelhouse
