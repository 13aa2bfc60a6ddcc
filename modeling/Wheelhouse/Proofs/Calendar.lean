import Mathlib.Order.Monotone.Basic
import Mathlib.Tactic.IntervalCases
import Wheelhouse.Calendar
import Wheelhouse.Proofs.Number.Shortest

/-!
The Gregorian calendar by its rules: which years have a leap day, and how many days a month has. Dates that
follow these rules are counted from the start of 1970, later dates by greater numbers. What is found for a
day, or for a moment, follows the rules and is the one date, or time, with that count.
-/

set_option autoImplicit false

namespace Wheelhouse.Calendar

/-! ### Years and months -/

/-- Every fourth year has a leap day; of the years that end a century only every fourth. -/
def IsLeap (year : ℤ) : Prop := year % 4 = 0 ∧ (year % 100 = 0 → year % 400 = 0)

instance (year : ℤ) : Decidable (IsLeap year) := inferInstanceAs (Decidable (_ ∧ _))

def leapDays (year : ℤ) : ℕ := if IsLeap year then 1 else 0

theorem leapDays_cases (year : ℤ) : IsLeap year ∧ leapDays year = 1 ∨ ¬IsLeap year ∧ leapDays year = 0 := by
  by_cases leap : IsLeap year <;> simp [leapDays, leap]

theorem leapDays_add_eras (year era : ℤ) : leapDays (year + era * 400) = leapDays year := by
  unfold leapDays IsLeap
  congr 1
  rw [eq_iff_iff]
  omega

def monthLength (year : ℤ) : ℕ → ℕ
  | 2 => 28 + leapDays year
  | 4 | 6 | 9 | 11 => 30
  | 1 | 3 | 5 | 7 | 8 | 10 | 12 => 31
  | _ => 0

theorem monthLength_le (year : ℤ) (month : ℕ) : monthLength year month ≤ 31 := by
  have leap := leapDays_cases year
  unfold monthLength
  split <;> omega

/-- How many days of a year come before a month. -/
def daysBefore (year : ℤ) : ℕ → ℕ
  | 0 => 0
  | month + 1 => daysBefore year month + monthLength year month

theorem daysBefore_succ (year : ℤ) (month : ℕ) :
    daysBefore year (month + 1) = daysBefore year month + monthLength year month := rfl

theorem daysBefore_mono (year : ℤ) : Monotone (daysBefore year) :=
  monotone_nat_of_le_succ fun _ => Nat.le_add_right _ _

theorem daysBefore_thirteen (year : ℤ) : daysBefore year 13 = 365 + leapDays year := by
  simp only [daysBefore, monthLength]
  omega

/-- The first of January of a year, counted from that of 1970. -/
def firstDay (year : ℤ) : ℤ :=
  365 * (year - 1970) + (year - 1) / 4 - (year - 1) / 100 + (year - 1) / 400 - 477

theorem firstDay_succ (year : ℤ) : firstDay (year + 1) = firstDay year + 365 + leapDays year := by
  have leap := leapDays_cases year
  unfold IsLeap at leap
  unfold firstDay
  omega

theorem firstDay_mono {year year' : ℤ} (order : year ≤ year') : firstDay year ≤ firstDay year' := by
  refine monotone_int_of_le_succ (fun year => ?_) order
  rw [firstDay_succ]
  omega

/-! ### Dates -/

structure IsDate (year : ℤ) (month day : ℕ) : Prop where
  month_pos : 1 ≤ month
  month_le : month ≤ 12
  day_pos : 1 ≤ day
  day_le : day ≤ monthLength year month

/-- A date, counted in days from the start of 1970. -/
def dayNumber (year : ℤ) (month day : ℕ) : ℤ := firstDay year + daysBefore year month + day - 1

section Order

variable {year year' : ℤ} {month month' day day' : ℕ}

theorem IsDate.firstDay_le (date : IsDate year month day) : firstDay year ≤ dayNumber year month day := by
  have first := date.day_pos
  unfold dayNumber
  omega

theorem IsDate.lt_nextMonth (date : IsDate year month day) :
    dayNumber year month day < firstDay year + daysBefore year (month + 1) := by
  have last := date.day_le
  rw [daysBefore_succ]
  unfold dayNumber
  omega

theorem IsDate.lt_firstDay (date : IsDate year month day) : dayNumber year month day < firstDay (year + 1) := by
  have next := date.lt_nextMonth
  have whole : daysBefore year (month + 1) ≤ daysBefore year 13 :=
    daysBefore_mono year (Nat.succ_le_succ date.month_le)
  rw [daysBefore_thirteen] at whole
  rw [firstDay_succ]
  omega

theorem IsDate.lt (date : IsDate year month day) (date' : IsDate year' month' day')
    (before : year < year' ∨ year = year' ∧ (month < month' ∨ month = month' ∧ day < day')) :
    dayNumber year month day < dayNumber year' month' day' := by
  rcases before with earlier | ⟨rfl, earlier | ⟨rfl, earlier⟩⟩
  next =>
    exact (date.lt_firstDay.trans_le (firstDay_mono earlier)).trans_le date'.firstDay_le
  next =>
    have next := date.lt_nextMonth
    have months : daysBefore year (month + 1) ≤ daysBefore year month' := daysBefore_mono year earlier
    have first := date'.day_pos
    unfold dayNumber at next ⊢
    omega
  next =>
    unfold dayNumber
    omega

theorem IsDate.lt_iff (date : IsDate year month day) (date' : IsDate year' month' day') :
    dayNumber year month day < dayNumber year' month' day' ↔
      year < year' ∨ year = year' ∧ (month < month' ∨ month = month' ∧ day < day') := by
  refine ⟨fun less => ?_, date.lt date'⟩
  by_contra later
  by_cases same : year = year' ∧ month = month' ∧ day = day'
  · obtain ⟨rfl, rfl, rfl⟩ := same
    exact lt_irrefl _ less
  · exact lt_asymm less (date'.lt date (by omega))

theorem IsDate.eq_iff (date : IsDate year month day) (date' : IsDate year' month' day') :
    dayNumber year month day = dayNumber year' month' day' ↔ year = year' ∧ month = month' ∧ day = day' := by
  have before := date.lt_iff date'
  have after := date'.lt_iff date
  omega

end Order

/-! ### The year of a day

The days of an era fall into centuries, groups of four years and years, all of one length but for the last
of each kind: a century lacks the leap day at its end, which the fourth century has. -/

def yearOfEra (dayOfEra : ℕ) : ℕ :=
  (dayOfEra - dayOfEra / 1460 + dayOfEra / 36524 - dayOfEra / 146096) / 365

/-- The days of an era before one of its years. -/
def daysOfEra (year : ℕ) : ℕ := 365 * year + year / 4 - year / 100

-- The century, the group, the year in the group and the day, each counted from 0.
theorem exists_parts {dayOfEra : ℕ} (inside : dayOfEra < 146097) : ∃ century group year day,
    century < 4 ∧ group < 25 ∧ year < 4 ∧ day ≤ 365 ∧ (day = 365 → year = 3 ∧ (group = 24 → century = 3)) ∧
      dayOfEra = 36524 * century + 1461 * group + 365 * year + day := by
  obtain ⟨century, rest, fourth, whole, short⟩ : ∃ century rest, century < 4 ∧
      dayOfEra = 36524 * century + rest ∧ (rest < 36524 ∨ rest = 36524 ∧ century = 3) :=
    ⟨min (dayOfEra / 36524) 3, dayOfEra - 36524 * min (dayOfEra / 36524) 3, by omega, by omega, by omega⟩
  obtain ⟨year, day, last, whole', short'⟩ : ∃ year day, year < 4 ∧ rest % 1461 = 365 * year + day ∧
      (day < 365 ∨ day = 365 ∧ year = 3) :=
    ⟨min (rest % 1461 / 365) 3, rest % 1461 - 365 * min (rest % 1461 / 365) 3, by omega, by omega, by omega⟩
  exact ⟨century, rest / 1461, year, day, fourth, by omega, last, by omega, by omega, by omega⟩

section Parts

variable {century group year day : ℕ}

theorem daysOfEra_of_parts (inside : group < 25) (inside' : year < 4) :
    daysOfEra (100 * century + 4 * group + year) = 36524 * century + 1461 * group + 365 * year := by
  unfold daysOfEra
  omega

theorem yearOfEra_of_parts (fourth : century < 4) (inside : group < 25) (inside' : year < 4) (short : day ≤ 365)
    (leap : day = 365 → year = 3 ∧ (group = 24 → century = 3)) :
    yearOfEra (36524 * century + 1461 * group + 365 * year + day) = 100 * century + 4 * group + year := by
  unfold yearOfEra
  generalize whole : 36524 * century + 1461 * group + 365 * year + day = dayOfEra
  have centuries : dayOfEra / 36524 = century + dayOfEra / 146096 := by
    rcases (by omega : dayOfEra < 146096 ∨ dayOfEra = 146096) with before | rfl <;> omega
  -- Groups are counted by 1460 days, so one too many may be taken away near the end of a group; dividing by
  -- 365 hides that.
  have groups : dayOfEra / 1460 = 25 * century + group ∧ day < 365 ∨
      dayOfEra / 1460 = 25 * century + group + 1 ∧ 0 < day := by omega
  omega

end Parts

theorem yearOfEra_bounds {dayOfEra : ℕ} (inside : dayOfEra < 146097) : yearOfEra dayOfEra < 400 ∧
    daysOfEra (yearOfEra dayOfEra) ≤ dayOfEra ∧
      dayOfEra < daysOfEra (yearOfEra dayOfEra) + 365 + leapDays (yearOfEra dayOfEra + 1) := by
  obtain ⟨century, group, year, day, fourth, within, within', short, last, rfl⟩ := exists_parts inside
  rw [yearOfEra_of_parts fourth within within' short last, daysOfEra_of_parts within within']
  have leap := leapDays_cases (100 * century + 4 * group + year + 1 : ℕ)
  unfold IsLeap at leap
  push_cast at leap ⊢
  omega

theorem firstDay_of_era {year : ℕ} (inside : year < 400) (era : ℤ) :
    firstDay (year + era * 400 + 1) = era * 146097 + daysOfEra year - 719162 := by
  unfold firstDay daysOfEra
  omega

/-! ### The date of a day -/

/-- The days from the first of March to the first of a month, counted from March on. -/
def daysFromMarch (month : ℕ) : ℕ := (153 * month + 2) / 5

section Months

variable (year : ℤ) {month : ℕ}

theorem monthLength_add_three (spring : month < 10) :
    daysFromMarch month + monthLength year (month + 3) = daysFromMarch (month + 1) := by
  interval_cases month <;> rfl

theorem daysBefore_add_three (spring : month < 10) :
    daysBefore year (month + 3) = 59 + leapDays year + daysFromMarch month := by
  induction month with
  | zero =>
    simp only [daysBefore, monthLength, daysFromMarch]
    omega
  | succ month ih =>
    have before := ih (by omega)
    have length := monthLength_add_three year (show month < 10 by omega)
    rw [Nat.add_right_comm, daysBefore_succ]
    omega

theorem daysBefore_sub_nine (winter : 10 ≤ month) (inside : month < 12) :
    306 + daysBefore year (month - 9) = daysFromMarch month := by
  interval_cases month <;> rfl

theorem monthLength_sub_nine (winter : 10 ≤ month) (inside : month < 12) :
    daysFromMarch month + monthLength year (month - 9) = min (daysFromMarch (month + 1)) (365 + leapDays year) := by
  have leap := leapDays_cases year
  interval_cases month <;> simp only [monthLength, daysFromMarch] <;> omega

end Months

-- The year and the month are counted from March on, and the day from 0.
theorem civil_cases (days : ℤ) : ∃ (year : ℤ) (month day : ℕ), month < 12 ∧
    daysFromMarch month + day < 365 + leapDays (year + 1) ∧ daysFromMarch month + day < daysFromMarch (month + 1) ∧
    days = firstDay (year + 1) - 306 + daysFromMarch month + day ∧
    civil days = if month < 10 then (year, month + 3, day + 1) else (year + 1, month - 9, day + 1) := by
  generalize eraEq : (days + 719468).fdiv daysPerEra = era
  generalize dayEq : (days + 719468 - era * daysPerEra).toNat = dayOfEra
  have inEra : dayOfEra < 146097 ∧ days + 719468 = era * 146097 + dayOfEra := by
    rw [Int.fdiv_eq_ediv_of_nonneg _ (by decide)] at eraEq
    unfold daysPerEra at eraEq dayEq
    omega
  obtain ⟨inside, low, high⟩ := yearOfEra_bounds inEra.1
  generalize yearEq : dayOfEra - daysOfEra (yearOfEra dayOfEra) = dayOfYear
  generalize monthEq : (5 * dayOfYear + 2) / 153 = month
  have inMonth : daysFromMarch month ≤ dayOfYear ∧ dayOfYear < daysFromMarch (month + 1) := by
    unfold daysFromMarch
    omega
  have leap : leapDays (yearOfEra dayOfEra + era * 400 + 1) = leapDays (yearOfEra dayOfEra + 1) := by
    rw [add_right_comm, leapDays_add_eras]
  have bound := leapDays_cases (yearOfEra dayOfEra + 1)
  have found : civil days =
      (yearOfEra dayOfEra + era * 400 + (if (if month < 10 then month + 3 else month - 9) ≤ 2 then 1 else 0),
        if month < 10 then month + 3 else month - 9, dayOfYear - daysFromMarch month + 1) := by
    subst eraEq dayEq yearEq monthEq
    rfl
  refine ⟨yearOfEra dayOfEra + era * 400, month, dayOfYear - daysFromMarch month, by omega, by omega, by omega, ?_, ?_⟩
  · rw [firstDay_of_era inside]
    omega
  · rw [found]
    split
    next => rw [if_neg (by omega), add_zero]
    next => rw [if_pos (by omega)]

theorem civil_spec (days : ℤ) : ∃ year month day, civil days = (year, month, day) ∧
    IsDate year month day ∧ dayNumber year month day = days := by
  obtain ⟨year, month, day, inside, inYear, inMonth, count, found⟩ := civil_cases days
  unfold dayNumber
  by_cases spring : month < 10
  · have length := monthLength_add_three year spring
    have before := daysBefore_add_three year spring
    have next := firstDay_succ year
    refine ⟨year, month + 3, day + 1, by rw [found, if_pos spring], ⟨by omega, by omega, by omega, by omega⟩, ?_⟩
    omega
  · have length := monthLength_sub_nine (year + 1) (not_lt.1 spring) inside
    have before := daysBefore_sub_nine (year + 1) (not_lt.1 spring) inside
    refine ⟨year + 1, month - 9, day + 1, by rw [found, if_neg spring], ⟨by omega, by omega, by omega, by omega⟩, ?_⟩
    omega

/-! ### Moments -/

structure IsMoment (m : Moment) : Prop where
  date : IsDate m.year m.month m.day
  hour_lt : m.hour < 24
  minute_lt : m.minute < 60
  second_lt : m.second < 60
  millisecond_lt : m.millisecond < 1000

def dayOf (m : Moment) : ℤ := dayNumber m.year m.month m.day

def secondOfDay (m : Moment) : ℕ := m.hour * 3600 + m.minute * 60 + m.second

/-- A moment, counted in milliseconds from the start of 1970. -/
def instant (m : Moment) : ℤ := dayOf m * 86400000 + secondOfDay m * 1000 + m.millisecond

theorem moment_spec (ms : ℤ) : IsMoment (moment ms) ∧ instant (moment ms) = ms := by
  obtain ⟨year, month, day, found, date, count⟩ := civil_spec (ms.fdiv millisecondsPerDay)
  generalize restEq : (ms - ms.fdiv millisecondsPerDay * millisecondsPerDay).toNat = rest
  have inDay : rest < 86400000 ∧ ms = ms.fdiv millisecondsPerDay * 86400000 + rest := by
    rw [Int.fdiv_eq_ediv_of_nonneg _ (by decide)] at restEq ⊢
    unfold millisecondsPerDay at restEq ⊢
    omega
  have fields : moment ms =
      ⟨year, month, day, rest / 3600000, rest / 60000 % 60, rest / 1000 % 60, rest % 1000⟩ := by
    unfold moment
    simp only [found, restEq]
  rw [fields]
  constructor
  · have hour : rest / 3600000 < 24 := by omega
    exact ⟨date, hour, Nat.mod_lt _ (by decide), Nat.mod_lt _ (by decide), Nat.mod_lt _ (by decide)⟩
  · simp only [instant, dayOf, secondOfDay, count]
    omega

section

variable {m m' : Moment} {ms : ℤ}

theorem IsMoment.secondOfDay_lt (valid : IsMoment m) : secondOfDay m < 86400 := by
  obtain ⟨_, hour, minute, second, _⟩ := valid
  unfold secondOfDay
  omega

theorem IsMoment.instant_div_lt_iff (valid : IsMoment m) (valid' : IsMoment m') :
    instant m / 1000 < instant m' / 1000 ↔ dayOf m < dayOf m' ∨ dayOf m = dayOf m' ∧ secondOfDay m < secondOfDay m' := by
  have inDay := valid.secondOfDay_lt
  have inDay' := valid'.secondOfDay_lt
  have inSecond := valid.millisecond_lt
  have inSecond' := valid'.millisecond_lt
  unfold instant
  omega

theorem IsMoment.eq_of_instant (valid : IsMoment m) (valid' : IsMoment m') (same : instant m = instant m') : m = m' := by
  have inDay := valid.secondOfDay_lt
  have inDay' := valid'.secondOfDay_lt
  obtain ⟨date, _, minute, second, milli⟩ := valid
  obtain ⟨date', _, minute', second', milli'⟩ := valid'
  unfold instant at same
  have day : dayOf m = dayOf m' := by omega
  have time : secondOfDay m = secondOfDay m' := by omega
  obtain ⟨sameYear, sameMonth, sameDay⟩ := (date.eq_iff date').1 day
  unfold secondOfDay at time
  rw [Moment.mk.injEq]
  exact ⟨sameYear, sameMonth, sameDay, by omega, by omega, by omega, by omega⟩

theorem moment_eq_iff : moment ms = m ↔ IsMoment m ∧ instant m = ms := by
  obtain ⟨valid, count⟩ := moment_spec ms
  constructor
  · rintro rfl
    exact ⟨valid, count⟩
  · rintro ⟨valid', rfl⟩
    exact valid.eq_of_instant valid' count

end

/-! ### Whole years -/

theorem le_year_iff {year ms : ℤ} : year ≤ (moment ms).year ↔ firstDay year * millisecondsPerDay ≤ ms := by
  obtain ⟨valid, count⟩ := moment_spec ms
  have inDay := valid.secondOfDay_lt
  have inSecond := valid.millisecond_lt
  have first := valid.date.firstDay_le
  have last := valid.date.lt_firstDay
  unfold instant dayOf at count
  unfold millisecondsPerDay
  constructor
  · intro reached
    have before := firstDay_mono reached
    omega
  · intro reached
    by_contra early
    have after := firstDay_mono (Int.add_one_le_of_lt (not_le.1 early))
    omega

/-- The milliseconds from the start of one year to the end of another. -/
def InYears (first last ms : ℤ) : Prop :=
  firstDay first * millisecondsPerDay ≤ ms ∧ ms < firstDay (last + 1) * millisecondsPerDay

instance (first last ms : ℤ) : Decidable (InYears first last ms) := inferInstanceAs (Decidable (_ ∧ _))

theorem inYears_iff {first last ms : ℤ} :
    InYears first last ms ↔ first ≤ (moment ms).year ∧ (moment ms).year ≤ last := by
  rw [InYears, ← le_year_iff, ← not_le, ← le_year_iff, not_le, Int.lt_add_one_iff]

/-! ### Padded numbers -/

theorem isDigit_of_mem_padded {width n : ℕ} {c : Char} (inside : c ∈ (padded width n).toList) : c.isDigit = true := by
  rw [padded, String.toList_ofList, List.mem_append] at inside
  exact inside.elim Number.isDigit_of_mem_zeros Number.isDigit_of_mem_digitsOf

end Wheelhouse.Calendar
