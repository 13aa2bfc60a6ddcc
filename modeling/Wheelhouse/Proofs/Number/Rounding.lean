import Mathlib.Algebra.Order.Field.Power
import Mathlib.Data.Int.Log
import Mathlib.Data.Rat.Floor
import Mathlib.Tactic.Linarith
import Wheelhouse.Number.Binary64

/-!
Rounding leaves alone what it has made. A positive number is the outcome of a rounding just if it is below
2¹⁰²⁴ and a whole multiple of the last bit that is kept of it.
-/

set_option autoImplicit false

namespace Wheelhouse.Number

variable {q v : ℚ}

/-! ### The greatest power of two -/

theorem log_eq_of_bounds {base : ℕ} (more : 1 < base) (positive : 0 < q) {e : ℤ} (low : (base : ℚ) ^ e ≤ q)
    (high : q < (base : ℚ) ^ (e + 1)) : Int.log base q = e := by
  have above := (Int.zpow_le_iff_le_log more positive).1 low
  have below := (Int.lt_zpow_iff_log_lt more positive).1 high
  omega

theorem shift_le_iff {n d : ℕ} (filled : 0 < d) (k : ℤ) :
    d <<< k.toNat ≤ n <<< (-k).toNat ↔ (2 : ℚ) ^ k ≤ n / d := by
  have positive : (0 : ℚ) < d := by exact_mod_cast filled
  rw [le_div_iff₀ positive, Nat.shiftLeft_eq, Nat.shiftLeft_eq]
  obtain ⟨m, rfl | rfl⟩ := k.eq_nat_or_neg
  · rw [Int.toNat_natCast, Int.toNat_neg_natCast, pow_zero, mul_one, zpow_natCast, mul_comm d]
    exact_mod_cast Iff.rfl
  · have power : (0 : ℚ) < 2 ^ m := by positivity
    rw [neg_neg, Int.toNat_neg_natCast, Int.toNat_natCast, pow_zero, mul_one, zpow_neg, zpow_natCast,
      inv_mul_le_iff₀ power, mul_comm (2 ^ m : ℚ)]
    exact_mod_cast Iff.rfl

theorem log2_bounds {n : ℕ} (filled : n ≠ 0) : (2 : ℚ) ^ (n.log2 : ℤ) ≤ n ∧ (n : ℚ) < 2 ^ (n.log2 + 1 : ℤ) := by
  constructor
  · rw [zpow_natCast]
    exact_mod_cast Nat.log2_self_le filled
  · have high : n < 2 ^ (n.log2 + 1) := Nat.lt_log2_self
    exact_mod_cast high

theorem eq_natAbs_div_den (positive : 0 < q) : q = (q.num.natAbs : ℚ) / q.den := by
  have whole : ((q.num.natAbs : ℤ) : ℚ) = q.num := by rw [Int.natAbs_of_nonneg (Rat.num_pos.2 positive).le]
  rw [← Int.cast_natCast, whole, Rat.num_div_den]

theorem binaryExponent_eq (positive : 0 < q) : binaryExponent q = Int.log 2 q := by
  have above : q.num.natAbs ≠ 0 := Int.natAbs_ne_zero.2 (Rat.num_pos.2 positive).ne'
  obtain ⟨lowAbove, highAbove⟩ := log2_bounds above
  obtain ⟨lowBelow, highBelow⟩ := log2_bounds q.den_nz
  have filled : (0 : ℚ) < q.den := by exact_mod_cast q.den_pos
  have reaches := shift_le_iff (n := q.num.natAbs) q.den_pos (q.num.natAbs.log2 - q.den.log2)
  have quotient := eq_natAbs_div_den positive
  rw [← quotient] at reaches
  unfold binaryExponent
  simp only
  symm
  split
  · rename_i enough
    apply log_eq_of_bounds (by decide) positive (reaches.1 enough)
    calc q = (q.num.natAbs : ℚ) / q.den := quotient
      _ < 2 ^ (q.num.natAbs.log2 + 1 : ℤ) / 2 ^ (q.den.log2 : ℤ) :=
        div_lt_div₀ highAbove lowBelow (by positivity) (by positivity)
      _ = 2 ^ ((q.num.natAbs.log2 : ℤ) - q.den.log2 + 1) := by
        rw [← zpow_sub₀ (by norm_num)]
        congr 1
        omega
  · rename_i less
    apply log_eq_of_bounds (by decide) positive
    · calc (2 : ℚ) ^ ((q.num.natAbs.log2 : ℤ) - q.den.log2 - 1)
          = 2 ^ (q.num.natAbs.log2 : ℤ) / 2 ^ (q.den.log2 + 1 : ℤ) := by
            rw [← zpow_sub₀ (by norm_num)]
            congr 1
            omega
        _ ≤ (q.num.natAbs : ℚ) / q.den := div_le_div₀ (by positivity) lowAbove filled highBelow.le
        _ = q := quotient.symm
    · simpa using not_le.1 fun enough => less (reaches.2 enough)

/-! ### The nearest whole number -/

theorem nearestEven_intCast (m : ℤ) : nearestEven m = m := by
  have floor : (m : ℚ).floor = m := Rat.floor_intCast m
  simp [nearestEven, floor]

theorem nearestEven_bounds (q : ℚ) : q.floor ≤ nearestEven q ∧ nearestEven q ≤ q.floor + 1 := by
  unfold nearestEven
  simp only
  split_ifs <;> omega

theorem nearestEven_nonneg (nonneg : 0 ≤ q) : 0 ≤ nearestEven q :=
  (Rat.le_floor_iff.2 (by simpa using nonneg)).trans (nearestEven_bounds q).1

theorem nearestEven_le {n : ℤ} (less : q < n) : nearestEven q ≤ n := by
  have floor : q.floor < n := by
    by_contra more
    exact absurd (Rat.le_floor_iff.1 (not_lt.1 more)) (not_le.2 less)
  have high := (nearestEven_bounds q).2
  omega

/-! ### What rounding makes -/

/-- Whether rounding leaves a number as it is. -/
def IsRounded (q : ℚ) : Prop := round q = .finite q

theorem isRounded_zero : IsRounded 0 := round_zero

theorem lastBit_le (positive : 0 < v) {bit : ℤ} (enough : -1074 ≤ bit) (less : v < 2 ^ (bit + 53)) :
    lastBit v ≤ bit := by
  have below := (Int.lt_zpow_iff_log_lt (b := 2) (by decide) positive).1 (by exact_mod_cast less)
  unfold lastBit
  rw [binaryExponent_eq positive]
  omega

theorem lt_of_lastBit (positive : 0 < q) : q < 2 ^ (lastBit q + 53) := by
  have high := Int.lt_zpow_succ_log_self (b := 2) (by decide) q
  refine lt_of_lt_of_le (by exact_mod_cast high) (zpow_le_zpow_right₀ (by norm_num) ?_)
  unfold lastBit
  rw [binaryExponent_eq positive]
  omega

theorem round_eq (positive : 0 < q) :
    round q =
      if (nearestEven (q * 2 ^ (-lastBit q)) : ℚ) * 2 ^ lastBit q < 2 ^ (1024 : ℤ) then
        .finite (nearestEven (q * 2 ^ (-lastBit q)) * 2 ^ lastBit q)
      else .infinite false := by
  have scaled : 0 ≤ q * 2 ^ (-lastBit q) := by positivity
  have whole : (0 : ℚ) ≤ nearestEven (q * 2 ^ (-lastBit q)) := by exact_mod_cast nearestEven_nonneg scaled
  have value : 0 ≤ (nearestEven (q * 2 ^ (-lastBit q)) : ℚ) * 2 ^ lastBit q := by positivity
  rw [round, if_neg positive.ne', Rat.abs_of_nonneg positive.le]
  simp only
  rw [Rat.abs_of_nonneg value, decide_eq_false (not_lt.2 value)]

-- A multiple of a bit that is no lower than the last one kept.
theorem isRounded_of_multiple (positive : 0 < v) (small : v < 2 ^ (1024 : ℤ)) {bit : ℤ} (kept : lastBit v ≤ bit) {m : ℤ}
    (multiple : v = m * 2 ^ bit) : IsRounded v := by
  obtain ⟨more, same⟩ := Int.le.dest kept
  have scaled : v * 2 ^ (-lastBit v) = (m * 2 ^ more : ℤ) := by
    calc v * 2 ^ (-lastBit v) = m * 2 ^ bit * 2 ^ (-lastBit v) := by rw [← multiple]
      _ = m * 2 ^ (bit + -lastBit v) := by rw [mul_assoc, ← zpow_add₀ (by norm_num)]
      _ = m * 2 ^ (more : ℤ) := by rw [show bit + -lastBit v = more by omega]
      _ = (m * 2 ^ more : ℤ) := by rw [zpow_natCast, Int.cast_mul, Int.cast_pow, Int.cast_ofNat]
  have whole : (nearestEven (v * 2 ^ (-lastBit v)) : ℚ) * 2 ^ lastBit v = v := by
    rw [scaled, nearestEven_intCast, ← scaled, mul_assoc, ← zpow_add₀ (by norm_num), neg_add_cancel, zpow_zero, mul_one]
  rw [IsRounded, round_eq positive, whole, if_pos small]

theorem isRounded_iff (positive : 0 < q) : IsRounded q ↔ q < 2 ^ (1024 : ℤ) ∧ ∃ m : ℤ, q = m * 2 ^ lastBit q := by
  constructor
  · intro rounded
    rw [IsRounded, round_eq positive] at rounded
    split at rounded
    · rename_i small
      rw [finite.injEq] at rounded
      rw [rounded] at small
      exact ⟨small, _, rounded.symm⟩
    · cases rounded
  · rintro ⟨small, m, multiple⟩
    exact isRounded_of_multiple positive small le_rfl multiple

theorem scaled_lt (positive : 0 < q) : q * 2 ^ (-lastBit q) < (2 ^ 53 : ℤ) := by
  have power : (0 : ℚ) < 2 ^ lastBit q := by positivity
  rw [zpow_neg, mul_inv_lt_iff₀ power, Int.cast_pow, Int.cast_ofNat, ← zpow_natCast, ← zpow_add₀ (by norm_num), add_comm]
  exact lt_of_lastBit positive

theorem neg_le_lastBit (q : ℚ) : -1074 ≤ lastBit q := le_max_right _ _

/-- What rounding makes is left as it is by rounding again. -/
theorem isRounded_of_round (nonneg : 0 ≤ q) (rounded : round q = .finite v) : 0 ≤ v ∧ IsRounded v := by
  rcases nonneg.eq_or_lt with rfl | positive
  · cases rounded
    exact ⟨le_rfl, isRounded_zero⟩
  have low := nearestEven_nonneg (q := q * 2 ^ (-lastBit q)) (by positivity)
  have high := nearestEven_le (scaled_lt positive)
  rw [round_eq positive] at rounded
  generalize nearestEven (q * 2 ^ (-lastBit q)) = m at rounded low high
  split at rounded
  · rename_i small
    cases rounded
    have power : (0 : ℚ) < 2 ^ lastBit q := by positivity
    rcases low.eq_or_lt with rfl | filled
    · simpa using isRounded_zero
    have above : (0 : ℚ) < m * 2 ^ lastBit q := mul_pos (by exact_mod_cast filled) power
    refine ⟨above.le, ?_⟩
    rcases high.lt_or_eq with fewer | rfl
    · -- The last bit can only be lower than before.
      refine isRounded_of_multiple above small (lastBit_le above (neg_le_lastBit q) ?_) rfl
      rw [zpow_add₀ (by norm_num), mul_comm]
      exact mul_lt_mul_of_pos_left (by exact_mod_cast fewer) power
    · -- Rounding has made the next power of two, whose last bit is the next one.
      have next : ((2 ^ 53 : ℤ) : ℚ) * 2 ^ lastBit q = (2 ^ 52 : ℤ) * 2 ^ (lastBit q + 1) := by
        rw [zpow_add₀ (by norm_num)]
        push_cast
        ring
      have enough := neg_le_lastBit q
      refine isRounded_of_multiple above small (lastBit_le above (by omega : -1074 ≤ lastBit q + 1) ?_) next
      rw [add_right_comm, zpow_add₀ (by norm_num), zpow_add₀ (by norm_num)]
      push_cast
      linarith
  · cases rounded

theorem isRounded_of_ofNat {n : ℕ} (rounded : ofNat n = .finite v) : 0 ≤ v ∧ IsRounded v :=
  isRounded_of_round (Nat.cast_nonneg n) rounded

/-- The least positive number that rounding makes. -/
theorem le_of_isRounded (positive : 0 < q) (rounded : IsRounded q) : 2 ^ (-1074 : ℤ) ≤ q := by
  obtain ⟨_, m, multiple⟩ := (isRounded_iff positive).1 rounded
  have power : (0 : ℚ) < 2 ^ lastBit q := by positivity
  have filled : 0 < m := by
    rw [multiple] at positive
    exact_mod_cast pos_of_mul_pos_left positive power.le
  have one : (1 : ℚ) ≤ m := by exact_mod_cast filled
  calc (2 : ℚ) ^ (-1074 : ℤ) ≤ 2 ^ lastBit q := zpow_le_zpow_right₀ (by norm_num) (neg_le_lastBit q)
    _ ≤ m * 2 ^ lastBit q := le_mul_of_one_le_left power.le one
    _ = q := multiple.symm

/-! ### Numbers that have a form -/

-- Whether a number is finite and left as it is by rounding.
def HasForm : Number → Prop
  | .finite q => IsRounded |q|
  | _ => False

theorem hasForm_of_nonneg (rounded : 0 ≤ q ∧ IsRounded q) : HasForm (.finite q) := by
  rw [HasForm, abs_of_nonneg rounded.1]
  exact rounded.2

theorem hasForm_ofNat (n : ℕ) (finite : (ofNat n).isFinite = true) : HasForm (ofNat n) := by
  cases value : ofNat n with
  | finite q => exact hasForm_of_nonneg (isRounded_of_ofNat value)
  | infinite negative => simp [value, isFinite] at finite
  | undefined => simp [value, isFinite] at finite

end Wheelhouse.Number
