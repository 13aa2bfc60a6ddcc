import Wheelhouse.Number.Decimal
import Wheelhouse.Proofs.Number.Rounding

/-!
Decimals and the numbers that they round to. The number of a decimal depends on its exact value only, and a
decimal whose exact value is left alone by rounding stands for that value.
-/

set_option autoImplicit false

namespace Wheelhouse

/-! ### Digits -/

-- Whether a text starts with no character of a class.
def Avoids (p : Char → Bool) (cs : List Char) : Prop := ∀ c ∈ cs.head?, p c = false

@[simp] theorem avoids_nil (p : Char → Bool) : Avoids p [] := by simp [Avoids]

@[simp] theorem avoids_cons {p : Char → Bool} {c : Char} {cs : List Char} : Avoids p (c :: cs) ↔ p c = false := by
  simp [Avoids]

theorem Avoids.mono {p p' : Char → Bool} {cs : List Char} (avoids : Avoids p cs) (fewer : ∀ c, p c = false → p' c = false) :
    Avoids p' cs :=
  fun c first => fewer c (avoids c first)

theorem spanDigits_append {ds rest : List Char} (digits : ∀ c ∈ ds, c.isDigit = true)
    (ended : Avoids Char.isDigit rest) : Number.spanDigits (ds ++ rest) = (ds, rest) := by
  have stop : rest.takeWhile Char.isDigit = [] ∧ rest.dropWhile Char.isDigit = rest := by
    cases rest with
    | nil => simp
    | cons c rest => simp_all
  rw [Number.spanDigits, List.span_eq_takeWhile_dropWhile, List.takeWhile_append_of_pos digits,
    List.dropWhile_append_of_pos digits, stop.1, stop.2, List.append_nil]

namespace Number

theorem natOfDigits_eq (ds : List Char) : natOfDigits ds = Nat.ofDigitChars 10 ds 0 := by
  simp only [natOfDigits, Nat.ofDigitChars, Nat.mul_comm]
  rfl

theorem natOfDigits_append (as bs : List Char) :
    natOfDigits (as ++ bs) = natOfDigits as * 10 ^ bs.length + natOfDigits bs := by
  rw [natOfDigits_eq, Nat.ofDigitChars_append, Nat.ofDigitChars_eq_ofDigitChars_zero, natOfDigits_eq, natOfDigits_eq,
    Nat.mul_comm]

@[simp] theorem natOfDigits_replicate_zero (n : ℕ) : natOfDigits (List.replicate n '0') = 0 := by
  simp [natOfDigits_eq]

@[simp] theorem natOfDigits_toDigits (n : ℕ) : natOfDigits (Nat.toDigits 10 n) = n := by
  rw [natOfDigits_eq, Nat.ofDigitChars_ten_toDigits]

theorem natOfDigits_cons (c : Char) (cs : List Char) :
    natOfDigits (c :: cs) = (c.toNat - 48) * 10 ^ cs.length + natOfDigits cs := by
  rw [← List.singleton_append, natOfDigits_append]
  simp [natOfDigits]

-- A number below the weight that stands after another number does not outweigh it.
theorem mul_add_lt_iff {a b x y weight : ℕ} (small : x < weight) (small' : y < weight) :
    a * weight + x < b * weight + y ↔ a < b ∨ a = b ∧ x < y := by
  rcases lt_trichotomy a b with less | rfl | more
  next =>
    have step := Nat.mul_le_mul_right weight (Nat.succ_le_of_lt less)
    rw [Nat.succ_mul] at step
    omega
  next => omega
  next =>
    have step := Nat.mul_le_mul_right weight (Nat.succ_le_of_lt more)
    rw [Nat.succ_mul] at step
    omega

theorem natOfDigits_lt {cs : List Char} (digits : ∀ c ∈ cs, c.isDigit = true) : natOfDigits cs < 10 ^ cs.length := by
  induction cs with
  | nil => decide
  | cons c cs ih =>
    have range : 48 ≤ c.toNat ∧ c.toNat ≤ 57 := Char.isDigit_iff_toNat.1 (digits c List.mem_cons_self)
    have rest := ih fun d inside => digits d (List.mem_cons_of_mem _ inside)
    have whole := (mul_add_lt_iff rest (Nat.pow_pos (by decide))).2 (.inl (show c.toNat - 48 < 10 by omega))
    rwa [natOfDigits_cons, List.length_cons, Nat.pow_succ']

end Number

namespace Decimal

open Number

variable {d d' : Decimal} {q : ℚ}

/-! ### The magnitude of a decimal -/

theorem digitCount_eq {n : ℕ} (filled : n ≠ 0) : digitCount n = Nat.log 10 n + 1 := by
  unfold digitCount
  apply le_antisymm
  · rw [Nat.length_toDigits_le_iff (by decide) (Nat.succ_pos _)]
    exact Nat.lt_pow_succ_log_self (by decide) n
  · by_contra fewer
    have positive : 0 < (Nat.toDigits 10 n).length := Nat.length_toDigits_pos
    have short : (Nat.toDigits 10 n).length ≤ Nat.log 10 n := by omega
    rw [Nat.length_toDigits_le_iff (by decide) (by omega)] at short
    exact absurd (Nat.pow_log_le_self 10 filled) (not_le.2 short)

theorem exact_nonneg (d : Decimal) : 0 ≤ d.exact := by
  unfold exact
  positivity

theorem exact_pos_iff : 0 < d.exact ↔ d.digits ≠ 0 := by
  have power : (0 : ℚ) < 10 ^ d.exponent := by positivity
  rw [exact, mul_pos_iff_of_pos_right power, Nat.cast_pos, Nat.pos_iff_ne_zero]

theorem magnitude_eq (filled : d.digits ≠ 0) : digitCount d.digits + d.exponent = Int.log 10 d.exact + 1 := by
  have power : (0 : ℚ) < 10 ^ d.exponent := by positivity
  have low : (10 : ℚ) ^ (Nat.log 10 d.digits : ℤ) ≤ d.digits := by
    rw [zpow_natCast]
    exact_mod_cast Nat.pow_log_le_self 10 filled
  have high : (d.digits : ℚ) < 10 ^ (Nat.log 10 d.digits + 1 : ℤ) := by
    have below : d.digits < 10 ^ (Nat.log 10 d.digits + 1) := Nat.lt_pow_succ_log_self (by decide) d.digits
    exact_mod_cast below
  have log : Int.log 10 d.exact = Nat.log 10 d.digits + d.exponent := by
    apply log_eq_of_bounds (by decide) (exact_pos_iff.2 filled)
    · rw [Nat.cast_ofNat, zpow_add₀ (by norm_num)]
      exact mul_le_mul_of_nonneg_right low power.le
    · rw [Nat.cast_ofNat, add_right_comm, zpow_add₀ (by norm_num)]
      exact mul_lt_mul_of_pos_right high power
  rw [log, digitCount_eq filled, Nat.cast_add, Nat.cast_one, add_right_comm]

/-! ### The number of a decimal -/

theorem toNumber_of_zero (zero : d.exact = 0) : d.toNumber = .finite 0 := by
  have none : d.digits = 0 := by
    by_contra filled
    exact absurd zero (exact_pos_iff.2 filled).ne'
  rw [toNumber, if_pos none]

theorem toNumber_of_pos (positive : 0 < d.exact) : d.toNumber =
    if 400 < Int.log 10 d.exact + 1 then .infinite false
    else if Int.log 10 d.exact + 1 < -400 then .finite 0 else Number.round d.exact := by
  have filled := exact_pos_iff.1 positive
  rw [toNumber, if_neg filled]
  simp only
  rw [magnitude_eq filled]

theorem toNumber_congr (same : d.exact = d'.exact) : d.toNumber = d'.toNumber := by
  rcases d.exact_nonneg.eq_or_lt with zero | positive
  · rw [toNumber_of_zero zero.symm, toNumber_of_zero (same ▸ zero.symm)]
  · rw [toNumber_of_pos positive, toNumber_of_pos (same ▸ positive), same]

/-- The number of a decimal is left as it is by rounding. -/
theorem isRounded_of_toNumber (value : d.toNumber = .finite q) : 0 ≤ q ∧ IsRounded q := by
  rcases d.exact_nonneg.eq_or_lt with zero | positive
  · rw [toNumber_of_zero zero.symm] at value
    cases value
    exact ⟨le_rfl, isRounded_zero⟩
  · rw [toNumber_of_pos positive] at value
    split_ifs at value
    · cases value
      exact ⟨le_rfl, isRounded_zero⟩
    · exact isRounded_of_round positive.le value

theorem hasForm_toNumber (finite : d.toNumber.isFinite = true) : d.toNumber.HasForm := by
  cases value : d.toNumber with
  | finite q => exact hasForm_of_nonneg (isRounded_of_toNumber value)
  | infinite negative => simp [value, isFinite] at finite
  | undefined => simp [value, isFinite] at finite

theorem toNumber_of_exact (positive : 0 < q) (rounded : IsRounded q) (exact : d.exact = q) : d.toNumber = .finite q := by
  have small := ((isRounded_iff positive).1 rounded).1
  have above := le_of_isRounded positive rounded
  have high : Int.log 10 q < 400 := by
    apply (Int.lt_zpow_iff_log_lt (by decide) positive).1
    have powers : 2 ^ 1024 ≤ 10 ^ 400 := by decide +kernel
    have bound : (2 : ℚ) ^ (1024 : ℤ) ≤ 10 ^ (400 : ℤ) := by exact_mod_cast powers
    exact_mod_cast small.trans_le bound
  have low : -401 ≤ Int.log 10 q := by
    apply (Int.zpow_le_iff_le_log (by decide) positive).1
    have powers : 2 ^ 1074 ≤ 10 ^ 401 := by decide +kernel
    have bound : (10 : ℚ) ^ (-401 : ℤ) ≤ 2 ^ (-1074 : ℤ) := by
      rw [zpow_neg, zpow_neg]
      exact inv_anti₀ (by positivity) (by exact_mod_cast powers)
    exact_mod_cast bound.trans above
  rw [toNumber_of_pos (exact ▸ positive), exact, if_neg (by omega), if_neg (by omega)]
  exact rounded

end Decimal

namespace Number

variable {n : Number}

theorem HasForm.negate (form : n.HasForm) : n.negate.HasForm := by
  cases n with
  | finite q =>
    rw [Number.negate, HasForm, abs_neg]
    exact form
  | infinite negative => exact form.elim
  | undefined => exact form.elim

@[simp] theorem isFinite_negate (n : Number) : n.negate.isFinite = n.isFinite := by
  cases n <;> rfl

theorem hasForm_unsignedOfChars {cs : List Char} (finite : (unsignedOfChars cs).isFinite = true) :
    (unsignedOfChars cs).HasForm := by
  unfold unsignedOfChars at finite ⊢
  split_ifs at finite ⊢
  · cases finite
  · split at finite
    · exact Decimal.hasForm_toNumber finite
    · cases finite

-- A text typed by a person is empty, has digits of a base, or is a number with or without a sign.
theorem ofText_cases (s : String) : ofText s = .finite 0 ∨
    (∃ base cs, ofText s = (natOfBase? base cs).elim .undefined ofNat) ∨
      (∃ cs, ofText s = unsignedOfChars cs) ∨ ∃ cs, ofText s = (unsignedOfChars cs).negate := by
  unfold ofText
  simp only
  split
  · exact .inl rfl
  · rename_i x rest _
    split_ifs
    · exact .inr (.inl ⟨16, rest, by cases natOfBase? 16 rest <;> rfl⟩)
    · exact .inr (.inl ⟨8, rest, by cases natOfBase? 8 rest <;> rfl⟩)
    · exact .inr (.inl ⟨2, rest, by cases natOfBase? 2 rest <;> rfl⟩)
    · exact .inr (.inr (.inl ⟨_, rfl⟩))
  · exact .inr (.inr (.inl ⟨_, rfl⟩))
  · exact .inr (.inr (.inr ⟨_, rfl⟩))
  · exact .inr (.inr (.inl ⟨_, rfl⟩))

/-- A finite number that is typed by a person has a form. -/
theorem hasForm_ofText {s : String} (finite : (ofText s).isFinite = true) : (ofText s).HasForm := by
  rcases ofText_cases s with zero | ⟨base, cs, based⟩ | ⟨cs, unsigned⟩ | ⟨cs, signed⟩
  · rw [zero]
    exact hasForm_of_nonneg ⟨le_rfl, isRounded_zero⟩
  · rw [based] at finite ⊢
    cases read : natOfBase? base cs with
    | some n =>
      rw [read] at finite
      exact hasForm_ofNat n finite
    | none =>
      rw [read] at finite
      cases finite
  · rw [unsigned] at finite ⊢
    exact hasForm_unsignedOfChars finite
  · rw [signed, isFinite_negate] at finite
    rw [signed]
    exact (hasForm_unsignedOfChars finite).negate

end Number

end Wheelhouse
