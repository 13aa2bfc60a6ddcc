import Wheelhouse.Proofs.Calendar
import Wheelhouse.Proofs.Number.Shortest
import Wheelhouse.Proofs.Text.Units

/-!
Tags of releases. A tag writes a date in eight digits and a time in six, so that tags are in the order of
their moments: digits of one width are in the order of the numbers that they write, and these numbers in
that of the dates and the times.
-/

set_option autoImplicit false

namespace Wheelhouse.Calendar

open Number Text

/-! ### Fields of digits -/

theorem codeUnits_lt_iff_natOfDigits_lt {cs ds : List Char} (digits : ∀ c ∈ cs, c.isDigit = true) (digits' : ∀ c ∈ ds, c.isDigit = true)
    (same : cs.length = ds.length) : codeUnits cs < codeUnits ds ↔ natOfDigits cs < natOfDigits ds := by
  induction cs generalizing ds with
  | nil =>
    obtain rfl := List.length_eq_zero_iff.1 same.symm
    exact iff_of_false (List.lt_irrefl _) (lt_irrefl _)
  | cons c cs ih =>
    cases ds with
    | nil => simp at same
    | cons d ds =>
      have later : ∀ e ∈ cs, e.isDigit = true := fun e inside => digits e (List.mem_cons_of_mem _ inside)
      have later' : ∀ e ∈ ds, e.isDigit = true := fun e inside => digits' e (List.mem_cons_of_mem _ inside)
      have width : cs.length = ds.length := Nat.succ_inj.1 same
      have range : 48 ≤ c.toNat ∧ c.toNat ≤ 57 := Char.isDigit_iff_toNat.1 (digits c List.mem_cons_self)
      have range' : 48 ≤ d.toNat ∧ d.toNat ≤ 57 := Char.isDigit_iff_toNat.1 (digits' d List.mem_cons_self)
      rw [codeUnits_cons_of_isDigit digits, codeUnits_cons_of_isDigit digits', List.cons_lt_cons_iff,
        ih later later' width, natOfDigits_cons, natOfDigits_cons, width,
        mul_add_lt_iff (width ▸ natOfDigits_lt later) (natOfDigits_lt later')]
      omega

/-- A text of so many digits that writes a number. -/
structure IsField (width n : ℕ) (s : String) : Prop where
  digits : ∀ c ∈ s.toList, c.isDigit = true
  length_eq : s.toList.length = width
  value_eq : natOfDigits s.toList = n

namespace IsField

variable {width width' m n : ℕ} {s t : String}

theorem append (first : IsField width m s) (second : IsField width' n t) :
    IsField (width + width') (m * 10 ^ width' + n) (s ++ t) where
  digits := by
    intro c inside
    rw [String.toList_append] at inside
    exact (List.mem_append.1 inside).elim (first.digits c) (second.digits c)
  length_eq := by rw [String.toList_append, List.length_append, first.length_eq, second.length_eq]
  value_eq := by rw [String.toList_append, natOfDigits_append, first.value_eq, second.value_eq, second.length_eq]

theorem length_codeUnits (field : IsField width n s) : (codeUnits s.toList).length = width :=
  (length_codeUnits_of_isDigit field.digits).trans field.length_eq

theorem codeUnits_lt_iff (field : IsField width m s) (field' : IsField width n t) :
    codeUnits s.toList < codeUnits t.toList ↔ m < n := by
  rw [codeUnits_lt_iff_natOfDigits_lt field.digits field'.digits (field.length_eq.trans field'.length_eq.symm),
    field.value_eq, field'.value_eq]

theorem codeUnits_eq_iff (field : IsField width m s) (field' : IsField width n t) :
    codeUnits s.toList = codeUnits t.toList ↔ m = n := by
  rw [eq_iff_not_lt, field.codeUnits_lt_iff field', field'.codeUnits_lt_iff field]
  omega

-- Texts of two fields each, with the same texts before them.
theorem codeUnits_lt_iff_lex {m n m' n' width width' : ℕ} {s t s' t' : String} (start between : String)
    (first : IsField width m s) (second : IsField width' n t) (first' : IsField width m' s')
    (second' : IsField width' n' t') :
    codeUnits (start ++ s ++ between ++ t).toList < codeUnits (start ++ s' ++ between ++ t').toList ↔
      m < m' ∨ m = m' ∧ n < n' := by
  have same := first.length_codeUnits.trans first'.length_codeUnits.symm
  simp only [String.toList_append, codeUnits_append, List.append_assoc, append_lt_append_iff,
    append_lt_append_iff_of_length_eq same]
  rw [first.codeUnits_lt_iff first', first.codeUnits_eq_iff first', second.codeUnits_lt_iff second']

end IsField

theorem isField_padded {width n : ℕ} (filled : 0 < width) (fits : n < 10 ^ width) : IsField width n (padded width n) := by
  have short : (digitsOf n).length ≤ width := (Nat.length_toDigits_le_iff (by decide) filled).2 fits
  have text : (padded width n).toList = zeros (width - (digitsOf n).length) ++ digitsOf n := String.toList_ofList
  refine ⟨fun c => isDigit_of_mem_padded, ?_, ?_⟩
  · rw [text, List.length_append, length_zeros]
    omega
  · rw [text, natOfDigits_append, natOfDigits_zeros, digitsOf, natOfDigits_toDigits]
    omega

theorem isField_toString {width n : ℕ} (filled : 0 < width) (low : 10 ^ width ≤ n) (high : n < 10 ^ (width + 1)) :
    IsField (width + 1) n (toString n) := by
  have short := (Nat.length_toDigits_le_iff (by decide) (Nat.succ_pos width)).2 high
  have long := mt (Nat.length_toDigits_le_iff (by decide) filled).1 (not_lt.2 low)
  have text : (toString n).toList = Nat.toDigits 10 n := Nat.toList_repr
  refine ⟨fun c inside => isDigit_of_mem_digitsOf (text ▸ inside), ?_, ?_⟩
  · rw [text]
    omega
  · rw [text, natOfDigits_toDigits]

/-! ### What a tag tells -/

/-- The date of a moment as one number, with two digits each for the month and the day. -/
def dateFigures (m : Moment) : ℕ := (m.year.toNat * 10 ^ 2 + m.month) * 10 ^ 2 + m.day

/-- The time of day as one number, with two digits for each part. -/
def timeFigures (m : Moment) : ℕ := (m.hour * 10 ^ 2 + m.minute) * 10 ^ 2 + m.second

theorem releaseTag_instant {m : Moment} (valid : IsMoment m) (low : 1000 ≤ m.year) (high : m.year ≤ 9999) :
    ∃ date time, IsField 8 (dateFigures m) date ∧ IsField 6 (timeFigures m) time ∧
      releaseTag (some (instant m)) = "wheels-" ++ date ++ "-" ++ time := by
  obtain ⟨year, whole⟩ := Int.eq_ofNat_of_zero_le (show 0 ≤ m.year by omega)
  have years : IsField 4 m.year.toNat (toString m.year) := by
    rw [whole, Int.toNat_natCast]
    exact isField_toString (by decide) (by omega) (by omega)
  have field {n : ℕ} (fits : n < 100) : IsField 2 n (padded 2 n) := isField_padded (by decide) fits
  have month := valid.date.month_le
  have day := valid.date.day_le.trans (monthLength_le _ _)
  have hour := valid.hour_lt
  have minute := valid.minute_lt
  have second := valid.second_lt
  have date := (years.append (field (show m.month < 100 by omega))).append (field (show m.day < 100 by omega))
  have time := ((field (show m.hour < 100 by omega)).append (field (show m.minute < 100 by omega))).append
    (field (show m.second < 100 by omega))
  refine ⟨_, _, date, time, ?_⟩
  have told : moment (instant m) = m := moment_eq_iff.2 ⟨valid, rfl⟩
  unfold releaseTag
  dsimp only
  rw [told]
  simp only [String.append_assoc]

example : releaseTag (some (instant ⟨2024, 12, 31, 23, 59, 7, 0⟩)) = "wheels-20241231-235907" := by decide

section

variable {m m' : Moment}

theorem dateFigures_lt_iff (valid : IsMoment m) (valid' : IsMoment m') (past : 0 ≤ m.year) (past' : 0 ≤ m'.year) :
    dateFigures m < dateFigures m' ↔ dayOf m < dayOf m' := by
  have month := valid.date.month_le
  have month' := valid'.date.month_le
  have day := valid.date.day_le.trans (monthLength_le _ _)
  have day' := valid'.date.day_le.trans (monthLength_le _ _)
  unfold dayOf
  rw [valid.date.lt_iff valid'.date]
  unfold dateFigures
  omega

theorem dateFigures_eq_iff (valid : IsMoment m) (valid' : IsMoment m') (past : 0 ≤ m.year) (past' : 0 ≤ m'.year) :
    dateFigures m = dateFigures m' ↔ dayOf m = dayOf m' := by
  have less := dateFigures_lt_iff valid valid' past past'
  have more := dateFigures_lt_iff valid' valid past' past
  omega

theorem timeFigures_lt_iff (valid : IsMoment m) (valid' : IsMoment m') :
    timeFigures m < timeFigures m' ↔ secondOfDay m < secondOfDay m' := by
  obtain ⟨_, _, minute, second, _⟩ := valid
  obtain ⟨_, _, minute', second', _⟩ := valid'
  unfold timeFigures secondOfDay
  omega

end

/-! ### The order of tags -/

variable {a b ms : ℤ}

/-- `wheels-`, eight digits, `-` and six digits. -/
def IsReleaseTag (tag : String) : Prop :=
  ∃ date time : String, tag = "wheels-" ++ date ++ "-" ++ time ∧ date.length = 8 ∧ time.length = 6 ∧
    ∀ c ∈ (date ++ time).toList, c.isDigit = true

theorem isReleaseTag_of_inYears (inside : InYears 1000 9999 ms) : IsReleaseTag (releaseTag (some ms)) := by
  obtain ⟨valid, count⟩ := moment_spec ms
  obtain ⟨low, high⟩ := inYears_iff.1 inside
  obtain ⟨date, time, dates, times, whole⟩ := releaseTag_instant valid low high
  rw [count] at whole
  exact ⟨date, time, whole, dates.length_eq, times.length_eq, (dates.append times).digits⟩

theorem IsReleaseTag.isSingle {tag : String} (form : IsReleaseTag tag) : IsSingle tag := by
  obtain ⟨date, time, rfl, -, -, digits⟩ := form
  rw [String.toList_append] at digits
  have single {s : String} (part : ∀ c ∈ s.toList, c ∈ date.toList ++ time.toList) : IsSingle s :=
    fun c inside => half?_of_isDigit (digits c (part c inside))
  have dates : IsSingle date := single fun c inside => List.mem_append_left _ inside
  have times : IsSingle time := single fun c inside => List.mem_append_right _ inside
  exact (((by decide : IsSingle "wheels-").append dates).append (by decide : IsSingle "-")).append times

theorem codeUnits_releaseTag_lt_iff (inside : InYears 1000 9999 a) (inside' : InYears 1000 9999 b) :
    codeUnits (releaseTag (some a)).toList < codeUnits (releaseTag (some b)).toList ↔ a / 1000 < b / 1000 := by
  obtain ⟨valid, count⟩ := moment_spec a
  obtain ⟨valid', count'⟩ := moment_spec b
  obtain ⟨low, high⟩ := inYears_iff.1 inside
  obtain ⟨low', high'⟩ := inYears_iff.1 inside'
  obtain ⟨date, time, dates, times, whole⟩ := releaseTag_instant valid low high
  obtain ⟨date', time', dates', times', whole'⟩ := releaseTag_instant valid' low' high'
  have order := valid.instant_div_lt_iff valid'
  rw [count] at whole order
  rw [count'] at whole' order
  rw [whole, whole', dates.codeUnits_lt_iff_lex "wheels-" "-" times dates' times', order,
    dateFigures_lt_iff valid valid' (by omega) (by omega), dateFigures_eq_iff valid valid' (by omega) (by omega),
    timeFigures_lt_iff valid valid']

theorem releaseTag_eq_iff (inside : InYears 1000 9999 a) (inside' : InYears 1000 9999 b) :
    releaseTag (some a) = releaseTag (some b) ↔ a / 1000 = b / 1000 := by
  have single := (isReleaseTag_of_inYears inside).isSingle
  have single' := (isReleaseTag_of_inYears inside').isSingle
  have units : codeUnits (releaseTag (some a)).toList = codeUnits (releaseTag (some b)).toList ↔ a / 1000 = b / 1000 := by
    rw [eq_iff_not_lt, codeUnits_releaseTag_lt_iff inside inside', codeUnits_releaseTag_lt_iff inside' inside]
    omega
  refine ⟨fun same => units.1 (by rw [same]), fun same => ?_⟩
  exact String.toList_inj.1 (codeUnits_inj single single' (units.2 same))

/-- Moments of the years from 1000 to 9999 have tags of one form. Two of them have the same tag just if
they lie in the same second, and the tag of an earlier second comes first. Seconds are rounded down, also
before 1970. -/
theorem releaseTags_in_order (inside : InYears 1000 9999 a) (inside' : InYears 1000 9999 b) :
    IsReleaseTag (releaseTag (some a)) ∧ IsReleaseTag (releaseTag (some b)) ∧
      (releaseTag (some a) = releaseTag (some b) ↔ a / 1000 = b / 1000) ∧
      (codeUnits (releaseTag (some a)).toList < codeUnits (releaseTag (some b)).toList ↔ a / 1000 < b / 1000) :=
  ⟨isReleaseTag_of_inYears inside, isReleaseTag_of_inYears inside', releaseTag_eq_iff inside inside',
    codeUnits_releaseTag_lt_iff inside inside'⟩

-- The last millisecond of a leap day before 1970 and the start of the day after it.
theorem releaseTags_in_order_leap : InYears 1000 9999 (-2077660800001) ∧ InYears 1000 9999 (-2077660800000) ∧
    codeUnits (releaseTag (some (-2077660800001))).toList < codeUnits (releaseTag (some (-2077660800000))).toList := by
  have inside : InYears 1000 9999 (-2077660800001) := by decide
  have inside' : InYears 1000 9999 (-2077660800000) := by decide
  exact ⟨inside, inside', (releaseTags_in_order inside inside').2.2.2.2 (by decide)⟩

end Wheelhouse.Calendar
