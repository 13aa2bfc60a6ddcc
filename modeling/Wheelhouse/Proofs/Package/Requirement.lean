import Mathlib.Data.List.Basic
import Mathlib.Data.List.TakeWhile
import Wheelhouse.Package.Archive
import Wheelhouse.Package.Requirement

/-!
Blanks, fields and names in lines of requirement files. A line that starts with a number sign asks for nothing,
and a line that pins a version is made of few characters.
-/

set_option autoImplicit false

namespace Wheelhouse

namespace Text

theorem trimEnd_cons {c : Char} (visible : isBlank c = false) (cs : List Char) :
    trimEnd (c :: cs) = c :: trimEnd cs := by
  have cut (ds : List Char) :
      (ds ++ [c]).dropWhile isBlank = ds.dropWhile isBlank ++ [c] := by
    induction ds with
    | nil => simp [visible]
    | cons d ds ih => by_cases blank : isBlank d = true <;> simp [blank, ih]
  simp [trimEnd, cut]

theorem trim_cons {c : Char} (visible : isBlank c = false) (cs : List Char) :
    trim (c :: cs) = c :: trimEnd cs := by
  simp [trim, visible, trimEnd_cons]

theorem trimEnd_eq_self {cs : List Char} (visible : ∀ c ∈ cs, isBlank c = false) : trimEnd cs = cs := by
  induction cs with
  | nil => rfl
  | cons c cs ih =>
    rw [trimEnd_cons (visible c (by simp)), ih fun d inside => visible d (by simp [inside])]

theorem trim_eq_self {cs : List Char} (visible : ∀ c ∈ cs, isBlank c = false) : trim cs = cs := by
  cases cs with
  | nil => rfl
  | cons c cs =>
    rw [trim_cons (visible c (by simp)), trimEnd_eq_self fun d inside => visible d (by simp [inside])]

theorem trimEnd_append {cs : List Char} (visible : ∀ c ∈ cs, isBlank c = false) (ds : List Char) :
    trimEnd (cs ++ ds) = cs ++ trimEnd ds := by
  induction cs with
  | nil => rfl
  | cons c cs ih =>
    rw [List.cons_append, trimEnd_cons (visible c (by simp)), ih fun d inside => visible d (by simp [inside])]
    rfl

theorem trim_append {cs : List Char} (visible : ∀ c ∈ cs, isBlank c = false) {c : Char} (seen : isBlank c = false)
    (ds : List Char) : trim (cs ++ c :: ds) = cs ++ c :: trimEnd ds := by
  have rest : trimEnd (cs ++ c :: ds) = cs ++ c :: trimEnd ds := by
    rw [trimEnd_append visible, trimEnd_cons seen]
  cases cs with
  | nil => exact trim_cons seen ds
  | cons d cs =>
    have whole := trimEnd_cons (visible d (by simp)) (cs ++ c :: ds)
    rw [List.cons_append, trim_cons (visible d (by simp)), ← whole]
    exact rest

theorem cut_append {sep : Char} {cs : List Char} (missing : sep ∉ cs) (ds : List Char) :
    cut sep (cs ++ sep :: ds) = (cs, some ds) := by
  have before : ∀ c ∈ cs, (c != sep) = true := by
    intro c inside
    simp only [bne_iff_ne]
    rintro rfl
    exact missing inside
  simp [cut, List.takeWhile_append_of_pos before, List.dropWhile_append_of_pos before]

theorem cut_of_not_mem {sep : Char} {cs : List Char} (missing : sep ∉ cs) : cut sep cs = (cs, none) := by
  have before : ∀ c ∈ cs, (c != sep) = true := by
    intro c inside
    simp only [bne_iff_ne]
    rintro rfl
    exact missing inside
  simp [cut, List.takeWhile_eq_self_iff.2 before, List.dropWhile_eq_nil_iff.2 before]

end Text

namespace PackageName

theorem of_isSpelling {inner : Char → Bool} {cs : List Char} (spelled : isSpelling inner cs = true) :
    (∃ first rest, cs = first :: rest ∧ first.isAlphanum = true) ∧
      (∃ init last, cs = init ++ [last] ∧ last.isAlphanum = true) ∧ ∀ c ∈ cs, inner c = true := by
  unfold isSpelling at spelled
  split at spelled
  · rename_i first last start ends
    simp only [Bool.and_eq_true, List.all_eq_true] at spelled
    obtain ⟨rest, rfl⟩ := List.head?_eq_some_iff.1 start
    exact ⟨⟨first, rest, rfl, spelled.1.1⟩,
      ⟨_, last, (List.dropLast_append_getLast? last ends).symm, spelled.1.2⟩, spelled.2⟩
  · cases spelled

end PackageName

namespace Requirement

theorem parse?_of_number_sign {line : String} {cs : List Char} (marked : line.toList = '#' :: cs) :
    parse? line = none := by
  have shape : Text.trim (stripComment line.toList) = [] ∨
      ∃ ds, Text.trim (stripComment line.toList) = '#' :: ds := by
    rw [marked, stripComment]
    split
    · exact .inl rfl
    · have kept : beforeComment ('#' :: cs) = '#' :: beforeComment cs := by
        simp [beforeComment, show Text.isBlank '#' = false by decide]
      exact .inr ⟨_, by rw [kept, Text.trim_cons (by decide)]⟩
  rcases shape with empty | ⟨ds, start⟩
  · simp [parse?, empty, ofTrimmed]
  · simp [parse?, start, ofTrimmed, show ('#' : Char).isAlphanum = false by decide]

section

theorem isAddress_of_not_mem {cs : List Char} (whole : ':' ∉ cs) : isAddress cs = false := by
  have missing : [':', '/', '/'].isPrefixOf (cs.dropWhile fun c => c.isAlpha || c == '+') = false := by
    rw [← Bool.not_eq_true, List.isPrefixOf_iff_prefix]
    intro start
    exact whole ((List.dropWhile_suffix _).subset (start.subset (by simp)))
  simp only [isAddress, missing, Bool.and_false]

-- What pin lines are made of.
def IsPinChar (c : Char) : Prop := c.isAlphanum = true ∨ c ∈ ['.', '_', '-', '!', '+', '=']

theorem IsPinChar.toNat {c : Char} (h : IsPinChar c) :
    c.toNat = 33 ∨ (43 ≤ c.toNat ∧ c.toNat ≤ 57) ∨ (61 ≤ c.toNat ∧ c.toNat ≤ 90) ∨ c.toNat = 95 ∨
      (97 ≤ c.toNat ∧ c.toNat ≤ 122) := by
  rcases h with h | h
  · change (decide ('A'.val ≤ c.val ∧ c.val ≤ 'Z'.val) || (decide ('a'.val ≤ c.val) && decide (c.val ≤ 'z'.val)) ||
      (decide ('0'.val ≤ c.val) && decide (c.val ≤ '9'.val))) = true at h
    simp only [Bool.or_eq_true, Bool.and_eq_true, decide_eq_true_eq, UInt32.le_iff_toNat_le] at h
    have code : c.val.toNat = c.toNat := rfl
    simp only [code] at h
    simp at h
    omega
  · simp only [List.mem_cons, List.not_mem_nil, or_false] at h
    rcases h with rfl | rfl | rfl | rfl | rfl | rfl <;> decide

theorem IsPinChar.visible {c : Char} (h : IsPinChar c) : Text.isBlank c = false := by
  have codes := h.toNat
  simp only [Text.isBlank, Bool.or_eq_false_iff, Bool.and_eq_false_iff, decide_eq_false_iff_not,
    beq_eq_false_iff_ne]
  omega

theorem IsPinChar.ne {c : Char} (h : IsPinChar c) : c ≠ '\n' ∧ c ≠ '#' ∧ c ≠ ':' ∧ c ≠ ';' ∧ c ≠ '[' := by
  have codes := h.toNat
  refine ⟨?_, ?_, ?_, ?_, ?_⟩ <;>
  · rintro rfl
    simp at codes

theorem isPinChar_of_isNameChar {c : Char} (h : PackageName.isNameChar c = true) : IsPinChar c := by
  simp only [PackageName.isNameChar, PackageName.isWheelNameChar, Bool.or_eq_true, beq_iff_eq] at h
  rcases h with ((h | rfl) | rfl) | rfl
  · exact .inl h
  all_goals exact .inr (by simp)

theorem isPinChar_of_isVersionChar {c : Char} (h : Archive.isVersionChar c = true) : IsPinChar c := by
  simp only [Archive.isVersionChar, Bool.or_eq_true, beq_iff_eq] at h
  rcases h with (((h | rfl) | rfl) | rfl) | rfl
  · exact .inl h
  all_goals exact .inr (by simp)

variable {name version : String}

theorem isPinChar_of_mem_pin (named : PackageName.isName name = true)
    (versioned : Archive.isVersion version.toList = true) {c : Char} (inside : c ∈ (pin name version).toList) :
    IsPinChar c := by
  have letters := (PackageName.of_isSpelling named).2.2
  have digits : ∀ d ∈ version.toList, Archive.isVersionChar d = true := by
    simp only [Archive.isVersion, Bool.and_eq_true, List.all_eq_true] at versioned
    exact versioned.2
  simp only [pin, String.toList_append, List.mem_append] at inside
  rcases inside with (inside | inside) | inside
  · exact isPinChar_of_isNameChar (letters c inside)
  · exact .inr (by simp_all)
  · exact isPinChar_of_isVersionChar (digits c inside)

end

end Requirement

end Wheelhouse
