import Mathlib.Data.List.DropRight
import Mathlib.Data.Nat.Prime.Basic
import Wheelhouse.Number.Shortest
import Wheelhouse.Proofs.Number.Decimal

/-!
The text of a positive number is read back. Whatever form the text has, with zeros at its end, with a point or
with a power of ten, it writes the exact value of the shortest decimal, and that decimal stands for the number.
-/

set_option autoImplicit false

namespace Wheelhouse.Number

open Decimal

variable {q : ℚ} {ds tail rest : List Char}

/-! ### The decimal that is written -/

-- The denominator of a whole multiple of a power of two is a power of two.
theorem exists_den_eq {m bit : ℤ} (multiple : q = m * 2 ^ bit) : ∃ k, q.den = 2 ^ k := by
  have divides : q.den ∣ 2 ^ (-bit).toNat := by
    have fraction : q = Rat.divInt (m * 2 ^ bit.toNat) (2 ^ (-bit).toNat : ℕ) := by
      rw [multiple, Rat.divInt_eq_div]
      obtain ⟨n, rfl | rfl⟩ := bit.eq_nat_or_neg <;> simp [div_eq_mul_inv]
    rw [fraction]
    exact_mod_cast Rat.den_dvd (m * 2 ^ bit.toNat) (2 ^ (-bit).toNat : ℕ)
  obtain ⟨k, _, same⟩ := (Nat.dvd_prime_pow Nat.prime_two).1 divides
  exact ⟨k, same⟩

theorem exact_exactDecimal (positive : 0 < q) {k : ℕ} (power : q.den = 2 ^ k) : (exactDecimal q).exact = q := by
  have five : (5 : ℚ) ^ k * 10 ^ (-(k : ℤ)) = (2 ^ k)⁻¹ := by
    rw [zpow_neg, zpow_natCast, show (10 : ℚ) = 5 * 2 by norm_num, mul_pow, mul_inv, ← mul_assoc,
      mul_inv_cancel₀ (by positivity), one_mul]
  rw [exactDecimal, power, Nat.log2_two_pow, Decimal.exact]
  simp only [Nat.pow_eq, Nat.cast_mul, Nat.cast_pow, Nat.cast_ofNat]
  rw [mul_assoc, five, ← div_eq_mul_inv]
  have quotient := eq_natAbs_div_den positive
  rw [power, Nat.cast_pow, Nat.cast_ofNat] at quotient
  exact quotient.symm

/-- The decimal that is written for a number stands for it. -/
theorem toNumber_shortestDecimal (positive : 0 < q) (rounded : IsRounded q) : (shortestDecimal q).toNumber = .finite q := by
  unfold shortestDecimal
  simp only
  split
  · rename_i d found
    simpa using List.find?_some found
  · obtain ⟨_, m, multiple⟩ := (isRounded_iff positive).1 rounded
    obtain ⟨k, power⟩ := exists_den_eq multiple
    exact toNumber_of_exact positive rounded (exact_exactDecimal positive power)

theorem digits_shortestDecimal_ne_zero (positive : 0 < q) (rounded : IsRounded q) : (shortestDecimal q).digits ≠ 0 := by
  intro none
  have value := toNumber_shortestDecimal positive rounded
  rw [toNumber, if_pos none, finite.injEq] at value
  exact positive.ne value

/-! ### Texts of decimals -/

def continuesNumber (c : Char) : Bool := c.isDigit || c == '.' || c == 'e' || c == 'E'

-- A text that is read as one decimal of this value, whatever follows that cannot go on with it.
def Writes (text : List Char) (value : ℚ) : Prop :=
  ∀ rest, Avoids continuesNumber rest → ∃ d, readDecimal true (text ++ rest) = some (d, rest) ∧ d.exact = value

-- The digits after the point, with the point if there are any.
def pointed : List Char → List Char
  | [] => []
  | c :: cs => '.' :: c :: cs

-- Without a point a text has no fraction, and with one it has the digits up to the next other character.
theorem readFraction_pointed {fraction : List Char} (digits : ∀ c ∈ fraction, c.isDigit = true)
    (stop : Avoids (fun c => c.isDigit || c == '.') tail) :
    Avoids Char.isDigit (pointed fraction ++ tail) ∧
      readFraction (pointed fraction ++ tail) = if fraction.isEmpty then none else some (fraction, tail) := by
  cases fraction with
  | nil =>
    refine ⟨stop.mono fun c other => (Bool.or_eq_false_iff.1 other).1, ?_⟩
    cases tail with
    | nil => rfl
    | cons c tail =>
      have other : c ≠ '.' := by simpa using (Bool.or_eq_false_iff.1 (avoids_cons.1 stop)).2
      simp [pointed, readFraction, other]
  | cons c cs =>
    refine ⟨by simp [pointed, Char.isDigit], ?_⟩
    have run := spanDigits_append digits (stop.mono fun c other => (Bool.or_eq_false_iff.1 other).1)
    rw [List.cons_append] at run
    simp [pointed, readFraction, run]

theorem readDecimal_append {whole fraction : List Char} {power : ℤ} (digits : ∀ c ∈ whole, c.isDigit = true)
    (digits' : ∀ c ∈ fraction, c.isDigit = true) (lead : whole = ['0'] ∨ ∃ c cs, whole = c :: cs ∧ c ≠ '0')
    (stop : Avoids (fun c => c.isDigit || c == '.') tail) (exponent : readExponent tail = (power, rest)) :
    readDecimal true (whole ++ (pointed fraction ++ tail)) =
      some (⟨natOfDigits (whole ++ fraction), power - fraction.length⟩, rest) := by
  obtain ⟨ended, read⟩ := readFraction_pointed digits' stop
  unfold readDecimal
  simp only [spanDigits_append digits ended, read]
  rw [if_pos]
  · cases fraction <;> simp [pointed, exponent]
  · obtain rfl | ⟨c, cs, rfl, other⟩ := lead
    · rfl
    · split
      · contradiction
      · rfl
      · simp_all

/-! ### What may end a number -/

-- What may stand after the digits of a number, with the power of ten that it is read as.
def EndsNumber (ending : List Char) (power : ℤ) : Prop :=
  ∀ rest, Avoids continuesNumber rest →
    Avoids (fun c => c.isDigit || c == '.') (ending ++ rest) ∧ readExponent (ending ++ rest) = (power, rest)

theorem continuesNumber_eq_false {c : Char} (other : continuesNumber c = false) :
    c.isDigit = false ∧ c ≠ '.' ∧ c ≠ 'e' ∧ c ≠ 'E' := by
  simpa [continuesNumber, and_assoc] using other

theorem endsNumber_nil : EndsNumber [] 0 := by
  intro rest avoids
  constructor
  · apply avoids.mono
    intro c other
    obtain ⟨digit, point, _⟩ := continuesNumber_eq_false other
    simp [digit, point]
  · cases rest with
    | nil => rfl
    | cons c rest =>
      obtain ⟨_, _, small, great⟩ := continuesNumber_eq_false (avoids_cons.1 avoids)
      simp [readExponent, small, great]

theorem isDigit_of_mem_digitsOf {n : ℕ} {c : Char} (member : c ∈ digitsOf n) : c.isDigit = true :=
  Nat.isDigit_of_mem_toDigits (by decide) (by decide) member

theorem endsNumber_exponent (power : ℤ) :
    EndsNumber ('e' :: (if power < 0 then '-' else '+') :: digitsOf power.natAbs) power := by
  intro rest avoids
  refine ⟨by simp [Char.isDigit], ?_⟩
  have ended : Avoids Char.isDigit rest := avoids.mono fun c other => (continuesNumber_eq_false other).1
  have run : spanDigits (digitsOf power.natAbs ++ rest) = (digitsOf power.natAbs, rest) :=
    spanDigits_append (fun c => isDigit_of_mem_digitsOf) ended
  have value : natOfDigits (digitsOf power.natAbs) = power.natAbs := natOfDigits_toDigits _
  have filled : digitsOf power.natAbs ≠ [] := Nat.toDigits_ne_nil
  obtain ⟨c, cs, same⟩ := List.exists_cons_of_ne_nil filled
  rw [same, List.cons_append] at run
  rw [same] at value ⊢
  by_cases negative : power < 0
  · simp [readExponent, negative, run, value, abs_of_neg negative]
  · have sign : (power.natAbs : ℤ) = power := by omega
    simp [readExponent, negative, run, value, sign]

/-! ### The forms of a text -/

theorem writes_append {whole fraction ending : List Char} {power : ℤ} (digits : ∀ c ∈ whole, c.isDigit = true)
    (digits' : ∀ c ∈ fraction, c.isDigit = true) (lead : whole = ['0'] ∨ ∃ c cs, whole = c :: cs ∧ c ≠ '0')
    (ends : EndsNumber ending power) :
    Writes (whole ++ (pointed fraction ++ ending))
      (natOfDigits (whole ++ fraction) * (10 : ℚ) ^ (power - fraction.length)) := by
  intro rest avoids
  obtain ⟨stop, exponent⟩ := ends rest avoids
  rw [List.append_assoc, List.append_assoc]
  exact ⟨_, readDecimal_append digits digits' lead stop exponent, rfl⟩

theorem pointed_of_ne_nil {cs : List Char} (filled : cs ≠ []) : pointed cs = '.' :: cs := by
  cases cs with
  | nil => contradiction
  | cons c cs => rfl

theorem isDigit_of_mem_zeros {n : ℕ} {c : Char} (member : c ∈ zeros n) : c.isDigit = true := by
  rw [List.eq_of_mem_replicate member]
  rfl

@[simp] theorem length_zeros (n : ℕ) : (zeros n).length = n := List.length_replicate

@[simp] theorem natOfDigits_zeros (n : ℕ) : natOfDigits (zeros n) = 0 := natOfDigits_replicate_zero n

-- The digits that a positive number is written with.
structure IsWritten (ds : List Char) : Prop where
  digits : ∀ c ∈ ds, c.isDigit = true
  lead : ∃ c cs, ds = c :: cs ∧ c ≠ '0'

namespace IsWritten

theorem writes_whole (n : ℕ) (written : IsWritten ds) : Writes (ds ++ zeros n) (natOfDigits ds * (10 : ℚ) ^ (n : ℤ)) := by
  have digits : ∀ c ∈ ds ++ zeros n, c.isDigit = true := by
    intro c member
    rcases List.mem_append.1 member with inside | zero
    · exact written.digits c inside
    · exact isDigit_of_mem_zeros zero
  have lead : ∃ c cs, ds ++ zeros n = c :: cs ∧ c ≠ '0' := by
    obtain ⟨c, cs, rfl, other⟩ := written.lead
    exact ⟨c, cs ++ zeros n, rfl, other⟩
  have form := writes_append digits (List.forall_mem_nil _) (.inr lead) endsNumber_nil
  have value : natOfDigits (ds ++ zeros n) = natOfDigits ds * 10 ^ n := by simp [natOfDigits_append]
  simpa only [pointed, List.append_nil, value, List.length_nil, Nat.cast_zero, sub_zero, zpow_zero, mul_one,
    Nat.cast_mul, Nat.cast_pow, Nat.cast_ofNat, zpow_natCast] using form

theorem writes_pointed {n : ℕ} (written : IsWritten ds) (positive : 0 < n) (inside : n < ds.length) :
    Writes (ds.take n ++ '.' :: ds.drop n) (natOfDigits ds * (10 : ℚ) ^ ((n : ℤ) - ds.length)) := by
  have lead : ∃ c cs, ds.take n = c :: cs ∧ c ≠ '0' := by
    obtain ⟨c, cs, rfl, other⟩ := written.lead
    obtain ⟨m, rfl⟩ := Nat.exists_eq_succ_of_ne_zero positive.ne'
    exact ⟨c, cs.take m, rfl, other⟩
  have filled : ds.drop n ≠ [] := by simpa using inside
  have digits : ∀ c ∈ ds.take n, c.isDigit = true := fun c member => written.digits c (List.mem_of_mem_take member)
  have digits' : ∀ c ∈ ds.drop n, c.isDigit = true := fun c member => written.digits c (List.mem_of_mem_drop member)
  have form := writes_append digits digits' (.inr lead) endsNumber_nil
  have exponent : (0 : ℤ) - (ds.drop n).length = n - ds.length := by
    rw [List.length_drop]
    omega
  rwa [List.append_nil, pointed_of_ne_nil filled, List.take_append_drop, exponent] at form

theorem writes_small (n : ℕ) (written : IsWritten ds) :
    Writes ('0' :: '.' :: zeros n ++ ds) (natOfDigits ds * (10 : ℚ) ^ (-(n : ℤ) - ds.length)) := by
  have digits : ∀ c ∈ zeros n ++ ds, c.isDigit = true := by
    intro c member
    rcases List.mem_append.1 member with zero | inside
    · exact isDigit_of_mem_zeros zero
    · exact written.digits c inside
  have filled : zeros n ++ ds ≠ [] := by
    obtain ⟨c, cs, rfl, _⟩ := written.lead
    simp
  have form := writes_append (by simp) digits (.inl rfl) endsNumber_nil
  have value : natOfDigits (['0'] ++ (zeros n ++ ds)) = natOfDigits ds := by
    rw [natOfDigits_append, natOfDigits_append, natOfDigits_zeros]
    simp [natOfDigits]
  have exponent : (0 : ℤ) - (zeros n ++ ds).length = -n - ds.length := by
    rw [List.length_append, length_zeros]
    omega
  rwa [List.append_nil, pointed_of_ne_nil filled, value, exponent] at form

theorem writes_scaled {c : Char} {cs : List Char} (power : ℤ) (written : IsWritten (c :: cs)) :
    Writes ([c] ++ (pointed cs ++ 'e' :: (if power < 0 then '-' else '+') :: digitsOf power.natAbs))
      (natOfDigits (c :: cs) * (10 : ℚ) ^ (power + 1 - (c :: cs).length)) := by
  obtain ⟨_, _, same, other⟩ := written.lead
  cases same
  have digits : ∀ d ∈ [c], d.isDigit = true := fun d member => written.digits d (List.mem_cons.2 (.inl (List.mem_singleton.1 member)))
  have digits' : ∀ d ∈ cs, d.isDigit = true := fun d member => written.digits d (List.mem_cons_of_mem c member)
  have form := writes_append digits digits' (.inr ⟨c, [], rfl, other⟩) (endsNumber_exponent power)
  have exponent : power - cs.length = power + 1 - (c :: cs).length := by
    rw [List.length_cons]
    omega
  rwa [exponent] at form

/-- Digits with a point at any place write these digits, moved to that place. -/
theorem writes_layOut (point : ℤ) (written : IsWritten ds) :
    Writes (layOut ds point) (natOfDigits ds * (10 : ℚ) ^ (point - ds.length)) := by
  obtain ⟨c, cs, rfl, _⟩ := written.lead
  have filled : 0 < (c :: cs).length := Nat.succ_pos _
  unfold layOut
  simp only [Bool.and_eq_true, decide_eq_true_eq]
  by_cases long : ((c :: cs).length : ℤ) ≤ point ∧ point ≤ 21
  · rw [if_pos long]
    have whole := written.writes_whole (point - (c :: cs).length).toNat
    rwa [Int.toNat_of_nonneg (by omega)] at whole
  rw [if_neg long]
  by_cases inside : 0 < point ∧ point ≤ 21
  · rw [if_pos inside]
    have middle := written.writes_pointed (n := point.toNat) (by omega) (by omega)
    rwa [Int.toNat_of_nonneg (by omega)] at middle
  rw [if_neg inside]
  by_cases small : -6 < point ∧ point ≤ 0
  · rw [if_pos small]
    have zeros := written.writes_small (-point).toNat
    rwa [Int.toNat_of_nonneg (by omega), neg_neg] at zeros
  rw [if_neg small]
  have scaled := written.writes_scaled (point - 1)
  rw [sub_add_cancel] at scaled
  cases cs with
  | nil => exact scaled
  | cons e rest => exact scaled

end IsWritten

/-! ### The text of a positive number -/

-- Only zeros are taken off.
theorem stripZeros_append (ds : List Char) : (stripZeros ds).1 ++ zeros (stripZeros ds).2 = ds := by
  have kept : (stripZeros ds).1 = ds.rdropWhile (· == '0') := rfl
  have zero : ∀ c ∈ ds.rtakeWhile (· == '0'), c = '0' := by
    intro c member
    simpa using List.mem_rtakeWhile_imp member
  have sum : ds.rdropWhile (· == '0') ++ ds.rtakeWhile (· == '0') = ds := List.rdropWhile_append_rtakeWhile
  have count : (stripZeros ds).2 = (ds.rtakeWhile (· == '0')).length := by
    have lengths := congrArg List.length sum
    rw [List.length_append, ← kept] at lengths
    change ds.length - (stripZeros ds).1.length = _
    omega
  rw [kept, count, zeros, ← List.eq_replicate_of_mem zero, sum]

theorem exists_toDigits_eq_cons {n : ℕ} (positive : n ≠ 0) : ∃ c cs, Nat.toDigits 10 n = c :: cs ∧ c ≠ '0' := by
  induction n using Nat.strong_induction_on with
  | _ n ih =>
    by_cases small : n < 10
    · refine ⟨n.digitChar, [], Nat.toDigits_of_lt_base small, ?_⟩
      rwa [Ne, Nat.digitChar_eq_zero]
    · have large : 10 ≤ n := not_lt.1 small
      obtain ⟨c, cs, digits, other⟩ := ih (n / 10) (by omega) (by omega)
      refine ⟨c, cs ++ [(n % 10).digitChar], ?_, other⟩
      rw [Nat.toDigits_of_base_le (by decide) large, digits, List.cons_append]

theorem isWritten_stripZeros {n : ℕ} (positive : n ≠ 0) : IsWritten (stripZeros (digitsOf n)).1 := by
  have sum := stripZeros_append (digitsOf n)
  obtain ⟨c, cs, digits, other⟩ := exists_toDigits_eq_cons positive
  constructor
  · intro d member
    apply isDigit_of_mem_digitsOf (n := n)
    rw [← sum]
    exact List.mem_append_left _ member
  · rw [show digitsOf n = c :: cs from digits] at sum ⊢
    cases kept : (stripZeros (c :: cs)).1 with
    | nil =>
      rw [kept, List.nil_append] at sum
      have member : c ∈ zeros (stripZeros (c :: cs)).2 := by
        rw [sum]
        exact List.mem_cons_self
      exact absurd (List.eq_of_mem_replicate member) other
    | cons d ds =>
      rw [kept, List.cons_append] at sum
      exact ⟨d, ds, rfl, (List.cons.inj sum).1 ▸ other⟩

/-- The text of a positive number writes the exact value of the decimal that was chosen for it. -/
theorem writes_positiveText (positive : 0 < q) (rounded : IsRounded q) :
    Writes (positiveText q) (shortestDecimal q).exact := by
  have filled := digits_shortestDecimal_ne_zero positive rounded
  unfold positiveText
  generalize shortestDecimal q = d at filled ⊢
  have form := (isWritten_stripZeros filled).writes_layOut ((digitsOf d.digits).length + d.exponent)
  have sum := stripZeros_append (digitsOf d.digits)
  simp only
  generalize stripZeros (digitsOf d.digits) = kept at sum form ⊢
  have count : (digitsOf d.digits).length = kept.1.length + kept.2 := by
    rw [← sum, List.length_append, length_zeros]
  have whole : d.digits = natOfDigits kept.1 * 10 ^ kept.2 := by
    rw [← natOfDigits_toDigits d.digits, ← digitsOf, ← sum, natOfDigits_append, length_zeros, natOfDigits_zeros, add_zero]
  have exponent : ((digitsOf d.digits).length : ℤ) + d.exponent - kept.1.length = kept.2 + d.exponent := by omega
  have value : natOfDigits kept.1 * (10 : ℚ) ^ (kept.2 + d.exponent) = d.exact := by
    rw [exact, zpow_add₀ (by norm_num), ← mul_assoc, zpow_natCast, whole]
    push_cast
    rfl
  rwa [exponent, value] at form

end Wheelhouse.Number
