import Mathlib.Data.List.Perm.Basic
import Mathlib.Tactic.ByContra
import Wheelhouse.Text.Units

/-!
The order of texts. Of texts that begin alike, what comes after decides. Texts in which every character
stands for itself, and not for half a pair, are ordered as their code units: the first unit in which two
texts differ decides, and a beginning comes before the whole.
-/

set_option autoImplicit false

namespace Wheelhouse.Text

theorem half?_of_isAscii {c : Char} (low : c.toNat < 128) : half? c = none := by
  unfold half?
  rw [if_neg]
  simp only [Bool.and_eq_true, decide_eq_true_eq, not_and]
  omega

theorem surrogate_of_half? {c : Char} {u : Nat} (half : half? c = some u) : 0xD800 ≤ u ∧ u < 0xE000 := by
  rw [half?, Option.ite_none_right_eq_some, Option.some.injEq] at half
  obtain ⟨range, rfl⟩ := half
  simp only [Bool.and_eq_true, decide_eq_true_eq] at range
  unfold halfDistance at range ⊢
  omega

theorem half?_of_isDigit {c : Char} (digit : c.isDigit = true) : half? c = none := by
  apply half?_of_isAscii
  simp only [Char.isDigit, ge_iff_le, Bool.and_eq_true, decide_eq_true_eq] at digit
  have bound := UInt32.le_iff_toNat_le.1 digit.2
  exact Nat.lt_of_le_of_lt bound (by decide)

theorem strictlyPrecedes_of_ne {a b : String} (before : precedes a b = true) (other : a ≠ b) :
    strictlyPrecedes a b = true := by
  rw [strictlyPrecedes, Bool.not_eq_true', Bool.eq_false_iff]
  exact fun after => other (String.toList_inj.1 (unitsLe_antisymm before after))

theorem not_codeUnits_lt_of_precedes {a b : String} (before : precedes a b = true) :
    ¬codeUnits b.toList < codeUnits a.toList := by
  rw [precedes, unitsLe_iff] at before
  rcases before with before | ⟨same, _⟩
  · exact List.lt_asymm before
  · exact same ▸ List.lt_irrefl _

theorem codeUnits_append (as bs : List Char) : codeUnits (as ++ bs) = codeUnits as ++ codeUnits bs :=
  List.flatMap_append

theorem append_lt_append_iff (ls as bs : List Nat) : ls ++ as < ls ++ bs ↔ as < bs := by
  induction ls with
  | nil => rfl
  | cons n ls ih => simpa [List.cons_lt_cons_iff] using ih

-- Where two beginnings have the same length, they are compared first.
theorem append_lt_append_iff_of_length_eq {as bs xs ys : List Nat} (same : as.length = bs.length) :
    as ++ xs < bs ++ ys ↔ as < bs ∨ as = bs ∧ xs < ys := by
  induction as generalizing bs with
  | nil =>
    obtain rfl := List.length_eq_zero_iff.1 same.symm
    simp
  | cons a as ih =>
    cases bs with
    | nil => simp at same
    | cons b bs =>
      rw [List.cons_append, List.cons_append, List.cons_lt_cons_iff, List.cons_lt_cons_iff,
        ih (Nat.succ_inj.1 same), List.cons.injEq]
      simp only [and_or_left, or_assoc, and_assoc]

theorem eq_iff_not_lt {us vs : List Nat} : us = vs ↔ ¬us < vs ∧ ¬vs < us := by
  constructor
  · rintro rfl
    exact ⟨List.lt_irrefl us, List.lt_irrefl us⟩
  · rintro ⟨notBefore, notAfter⟩
    exact List.le_antisymm (List.not_lt.1 notAfter) (List.not_lt.1 notBefore)

theorem unitsLe_append (cs as bs : List Char) : unitsLe (cs ++ as) (cs ++ bs) = unitsLe as bs := by
  rw [Bool.eq_iff_iff, unitsLe_iff, unitsLe_iff]
  simp only [codeUnits_append, List.map_append, append_lt_append_iff, List.append_cancel_left_eq]

theorem precedes_append (start a b : String) : precedes (start ++ a) (start ++ b) = precedes a b := by
  simp [precedes, unitsLe_append]

-- Texts that are in order and different from each other are settled by which texts they are.
theorem eq_of_mem_iff {ss ts : List String} (apart : ss.Nodup) (apart' : ts.Nodup)
    (ordered : ss.Pairwise fun a b => precedes a b = true) (ordered' : ts.Pairwise fun a b => precedes a b = true)
    (members : ∀ s, s ∈ ss ↔ s ∈ ts) : ss = ts :=
  ((List.perm_ext_iff_of_nodup apart apart').2 members).eq_of_pairwise
    (fun _ _ _ _ before after => String.toList_inj.1 (unitsLe_antisymm before after)) ordered ordered'

-- No character of the text stands for half a pair.
def IsSingle (s : String) : Prop := ∀ c ∈ s.toList, half? c = none

instance (s : String) : Decidable (IsSingle s) := List.decidableBAll _ s.toList

theorem IsSingle.append {s t : String} (hs : IsSingle s) (ht : IsSingle t) : IsSingle (s ++ t) := by
  intro c inside
  rw [String.toList_append] at inside
  exact (List.mem_append.1 inside).elim (hs c) (ht c)

-- A character is one code unit that is no surrogate, or a pair of them.
theorem unitsOf_cases {c : Char} (single : half? c = none) :
    ((c.toNat < 0xD800 ∨ 0xE000 ≤ c.toNat) ∧ unitsOf c = [c.toNat]) ∨
      ∃ n, c.toNat = n + 0x10000 ∧ n < 0x100000 ∧ unitsOf c = [0xD800 + n / 0x400, 0xDC00 + n % 0x400] := by
  have valid := c.valid
  simp only [UInt32.isValidChar, Nat.isValidChar, show c.val.toNat = c.toNat from rfl] at valid
  unfold unitsOf
  rw [single]
  by_cases plane : c.toNat < 0x10000
  · exact .inl ⟨by omega, if_pos plane⟩
  · exact .inr ⟨c.toNat - 0x10000, by omega, by omega, if_neg plane⟩

theorem unitsOf_of_isAscii {c : Char} (low : c.toNat < 128) : unitsOf c = [c.toNat] := by
  rw [unitsOf, half?_of_isAscii low]
  exact if_pos (by omega)

theorem codeUnits_cons_of_isDigit {c : Char} {cs : List Char} (digits : ∀ d ∈ c :: cs, d.isDigit = true) :
    codeUnits (c :: cs) = c.toNat :: codeUnits cs := by
  have range : 48 ≤ c.toNat ∧ c.toNat ≤ 57 := Char.isDigit_iff_toNat.1 (digits c List.mem_cons_self)
  rw [codeUnits, List.flatMap_cons, unitsOf_of_isAscii (by omega)]
  rfl

theorem length_codeUnits_of_isDigit {cs : List Char} (digits : ∀ c ∈ cs, c.isDigit = true) :
    (codeUnits cs).length = cs.length := by
  induction cs with
  | nil => rfl
  | cons c cs ih =>
    rw [codeUnits_cons_of_isDigit digits, List.length_cons, List.length_cons,
      ih fun d inside => digits d (List.mem_cons_of_mem _ inside)]

-- No character beyond ASCII starts with a unit of ASCII.
theorem toNat_of_unitsOf {c : Char} {u : Nat} {us vs : List Nat} (low : u < 128) (units : unitsOf c ++ us = u :: vs) :
    c.toNat = u := by
  unfold unitsOf at units
  cases half : half? c with
  | some v =>
    simp only [half, List.singleton_append, List.cons.injEq] at units
    have range := surrogate_of_half? half
    omega
  | none =>
    simp only [half] at units
    split at units
    · exact (List.cons.inj units).1
    · have high := (List.cons.inj units).1
      omega

-- An ASCII text begins another text if its code units do.
theorem prefix_of_codeUnits {cs ds : List Char} (ascii : ∀ c ∈ cs, c.toNat < 128)
    (begins : codeUnits cs <+: codeUnits ds) : cs <+: ds := by
  induction cs generalizing ds with
  | nil => exact List.nil_prefix
  | cons c cs ih =>
    have low := ascii c (by simp)
    obtain ⟨later, whole⟩ := begins
    cases ds with
    | nil => simp [codeUnits, unitsOf_of_isAscii low] at whole
    | cons d ds =>
      simp only [codeUnits, List.flatMap_cons, unitsOf_of_isAscii low, List.cons_append, List.nil_append] at whole
      obtain rfl : d = c := Char.toNat_inj.1 (toNat_of_unitsOf low whole.symm)
      rw [unitsOf_of_isAscii low] at whole
      refine List.cons_prefix_cons.2 ⟨rfl, ih (fun e inside => ascii e (List.mem_cons_of_mem _ inside)) ?_⟩
      exact ⟨later, (List.cons.inj whole).2⟩

theorem unitsOf_ne_nil (c : Char) : unitsOf c ≠ [] := by
  unfold unitsOf
  split
  · simp
  · split <;> simp

theorem unitsOf_append_inj {a b : Char} (single : half? a = none) (single' : half? b = none) {us vs : List Nat}
    (same : unitsOf a ++ us = unitsOf b ++ vs) : a = b ∧ us = vs := by
  rcases unitsOf_cases single with ⟨range, units⟩ | ⟨n, value, range, units⟩ <;>
    rcases unitsOf_cases single' with ⟨range', units'⟩ | ⟨n', value', range', units'⟩ <;>
    rw [units, units'] at same <;>
    simp only [List.cons_append, List.nil_append, List.cons.injEq] at same
  · exact ⟨Char.toNat_inj.1 same.1, same.2⟩
  · omega
  · omega
  · exact ⟨Char.toNat_inj.1 (by omega), same.2.2⟩

theorem codeUnits_inj {as bs : List Char} (single : ∀ c ∈ as, half? c = none) (single' : ∀ c ∈ bs, half? c = none)
    (same : codeUnits as = codeUnits bs) : as = bs := by
  induction as generalizing bs with
  | nil =>
    cases bs with
    | nil => rfl
    | cons b bs => simp [codeUnits, unitsOf_ne_nil] at same
  | cons a as ih =>
    cases bs with
    | nil => simp [codeUnits, unitsOf_ne_nil] at same
    | cons b bs =>
      have split : unitsOf a ++ codeUnits as = unitsOf b ++ codeUnits bs := same
      obtain ⟨rfl, rest⟩ := unitsOf_append_inj (single a List.mem_cons_self) (single' b List.mem_cons_self) split
      rw [ih (fun c inside => single c (List.mem_cons_of_mem _ inside))
        (fun c inside => single' c (List.mem_cons_of_mem _ inside)) rest]

theorem strictlyPrecedes_iff {a b : String} (single : IsSingle a) (single' : IsSingle b) :
    strictlyPrecedes a b = true ↔ codeUnits a.toList < codeUnits b.toList := by
  rw [strictlyPrecedes, Bool.not_eq_true', Bool.eq_false_iff, ne_eq, precedes, unitsLe_iff, not_or, not_and]
  constructor
  · rintro ⟨before, after⟩
    by_contra other
    have same := List.le_antisymm (List.not_lt.1 before) (List.not_lt.1 other)
    exact after same.symm (codeUnits_inj single single' same ▸ List.lt_irrefl _)
  · intro before
    refine ⟨List.lt_asymm before, fun same => ?_⟩
    exact absurd before (same ▸ List.lt_irrefl _)

end Wheelhouse.Text
