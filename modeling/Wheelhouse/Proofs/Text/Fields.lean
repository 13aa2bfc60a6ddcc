import Mathlib.Data.List.Basic
import Wheelhouse.Proofs.Package.Requirement
import Wheelhouse.Text.Fields

/-!
The ways to cut a text. Each is settled by the text alone: there is one list of fields without the separator
that joins to it, one place of its first and of its last separator, and one text before a given ending.
-/

set_option autoImplicit false

namespace Wheelhouse.Text

theorem split_eq_iff {sep : Char} {cs : List Char} {fs : List (List Char)} :
    split (· == sep) cs = fs ↔ fs ≠ [] ∧ (∀ f ∈ fs, sep ∉ f) ∧ cs = join [sep] fs := by
  constructor
  · rintro rfl
    refine ⟨split_ne_nil _ _, ?_, (join_split sep cs).symm⟩
    intro f inside here
    simpa using not_mem_of_mem_split inside sep here
  · rintro ⟨filled, apart, rfl⟩
    exact split_join filled apart

theorem split_toList {sep : Char} {s : String} :
    split (· == sep) s.toList = (fields (· == sep) s).map String.toList := by
  simp [fields, Function.comp_def]

theorem fields_eq_iff {sep : Char} {s : String} {fs : List String} :
    fields (· == sep) s = fs ↔
      fs ≠ [] ∧ (∀ f ∈ fs, sep ∉ f.toList) ∧ s = joined (String.singleton sep) fs := by
  have same : fields (· == sep) s = fs ↔ split (· == sep) s.toList = fs.map String.toList := by
    rw [split_toList]
    exact (List.map_injective_iff.2 fun _ _ => String.toList_inj.1).eq_iff.symm
  rw [same, split_eq_iff]
  simp [joined, ← String.toList_inj]

-- A separator parts a text: the fields before it and those after it are all there are.
theorem split_append_sep {p : Char → Bool} {c : Char} (separates : p c = true) (as bs : List Char) :
    split p (as ++ c :: bs) = split p as ++ split p bs := by
  induction as with
  | nil => simp [split, separates]
  | cons a as ih =>
    obtain ⟨f, fs, fields⟩ := List.exists_cons_of_ne_nil (split_ne_nil p as)
    by_cases here : p a = true
    next => simp [split, here, ih]
    next => simp [split, here, ih, fields]

-- Where no field is empty, no separator stands at an end of the text or beside another.
theorem not_sep_of_filled {sep : Char} {cs : List Char} (filled : [] ∉ split (· == sep) cs) :
    ¬[sep] <+: cs ∧ ¬[sep] <:+ cs ∧ ¬[sep, sep] <:+: cs := by
  have parted (as bs : List Char) : split (· == sep) (as ++ sep :: bs) = split (· == sep) as ++ split (· == sep) bs :=
    split_append_sep (p := (· == sep)) (beq_self_eq_true sep) as bs
  refine ⟨?_, ?_, ?_⟩
  · rintro ⟨rest, rfl⟩
    exact filled (by simp [split])
  · rintro ⟨before, rfl⟩
    exact filled (by simp [parted, split])
  · rintro ⟨before, after, rfl⟩
    have inner : before ++ [sep, sep] ++ after = before ++ sep :: (sep :: after) := by simp
    exact filled (by simp [inner, parted, split])

theorem join_cons_of_ne_nil {sep f : List Char} {fs : List (List Char)} (filled : fs ≠ []) :
    join sep (f :: fs) = f ++ sep ++ join sep fs := by
  cases fs with
  | nil => exact absurd rfl filled
  | cons g fs => rfl

theorem join_append (sep : List Char) {fs gs : List (List Char)} (filled : fs ≠ []) (filled' : gs ≠ []) :
    join sep (fs ++ gs) = join sep fs ++ sep ++ join sep gs := by
  induction fs with
  | nil => exact absurd rfl filled
  | cons f fs ih =>
    cases fs with
    | nil => exact join_cons_of_ne_nil filled'
    | cons g fs => simpa [join_cons_cons] using ih (by simp)

theorem joined_append (sep : String) {names more : List String} (filled : names ≠ []) (filled' : more ≠ []) :
    joined sep (names ++ more) = joined sep names ++ sep ++ joined sep more := by
  apply String.toList_inj.1
  simp [joined, join_append sep.toList (List.map_eq_nil_iff.not.2 filled) (List.map_eq_nil_iff.not.2 filled')]

theorem join_append_sep {sep : List Char} {fs : List (List Char)} (filled : fs ≠ []) :
    join sep fs ++ sep = fs.flatMap fun f => f ++ sep := by
  induction fs with
  | nil => exact absurd rfl filled
  | cons f rest ih =>
    cases rest with
    | nil => simp [join]
    | cons g rest =>
      rw [join_cons_cons, List.append_assoc, List.append_assoc, ih (List.cons_ne_nil _ _), List.flatMap_cons]
      simp

theorem cut_at_first {α : Type} {sep : α} {before after before' after' : List α}
    (same : before ++ sep :: after = before' ++ sep :: after') (fresh : sep ∉ before) (fresh' : sep ∉ before') :
    before = before' ∧ after = after' := by
  induction before generalizing before' with
  | nil =>
    cases before' with
    | nil => exact ⟨rfl, (List.cons.inj same).2⟩
    | cons c rest => exact absurd ((List.cons.inj same).1 ▸ List.mem_cons_self) fresh'
  | cons c before ih =>
    cases before' with
    | nil => exact absurd ((List.cons.inj same).1 ▸ List.mem_cons_self) fresh
    | cons c' before' =>
      obtain ⟨rfl, rest⟩ := List.cons.inj same
      obtain ⟨rfl, rfl⟩ := ih rest (fun inside => fresh (List.mem_cons_of_mem _ inside))
        fun inside => fresh' (List.mem_cons_of_mem _ inside)
      exact ⟨rfl, rfl⟩

theorem cutLast_eq_some_iff {sep : Char} {cs before after : List Char} :
    cutLast sep cs = some (before, after) ↔ cs = before ++ sep :: after ∧ sep ∉ after := by
  constructor
  · intro found
    by_cases there : sep ∈ cs.reverse
    · obtain ⟨tail, head, whole, missing⟩ := List.eq_append_cons_of_mem there
      have parts : some (head.reverse, tail.reverse) = some (before, after) := by
        simpa [cutLast, whole, cut_append missing] using found
      cases parts
      refine ⟨?_, by simpa using missing⟩
      simpa using congrArg List.reverse whole
    · simp [cutLast, cut_of_not_mem there] at found
  · rintro ⟨rfl, missing⟩
    have turned : (before ++ sep :: after).reverse = after.reverse ++ sep :: before.reverse := by simp
    simp [cutLast, turned, cut_append (show sep ∉ after.reverse by simpa using missing)]

-- An ending without the separator is an ending of the last field.
theorem suffix_append_cons_iff {sep : Char} {ending cs ds : List Char} (missing : sep ∉ ending) :
    ending <:+ cs ++ sep :: ds ↔ ending <:+ ds := by
  have last : ds <:+ cs ++ sep :: ds := ⟨cs ++ [sep], by simp⟩
  refine ⟨fun ends => ?_, fun ends => ends.trans last⟩
  rcases List.suffix_or_suffix_of_suffix ends (List.suffix_append cs (sep :: ds)) with within | within
  · rcases List.suffix_cons_iff.1 within with rfl | within
    · exact absurd List.mem_cons_self missing
    · exact within
  · exact absurd (within.subset List.mem_cons_self) missing

theorem dropEnding?_eq_some_iff {ending cs stem : List Char} :
    dropEnding? ending cs = some stem ↔ cs = stem ++ ending := by
  unfold dropEnding?
  constructor
  · intro found
    split at found
    · rename_i ends
      obtain ⟨before, rfl⟩ := List.isSuffixOf_iff_suffix.1 ends
      simpa using found
    · cases found
  · rintro rfl
    simp

end Wheelhouse.Text
