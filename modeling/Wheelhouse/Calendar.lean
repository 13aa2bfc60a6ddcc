import Wheelhouse.Number.Binary64
import Wheelhouse.Number.Shortest

set_option autoImplicit false

namespace Wheelhouse

structure Moment where
  year : Int
  month : Nat
  day : Nat
  hour : Nat
  minute : Nat
  second : Nat
  millisecond : Nat
  deriving DecidableEq

namespace Calendar

def daysPerEra : Int := 146097

/-- The year, month and day of a day counted from the start of 1970. Years are counted from March on
inside an era, so that the leap day comes last. -/
def civil (days : Int) : Int × Nat × Nat :=
  -- Day 0 of the first era is the first of March of the year 0.
  let shifted := days + 719468
  let era := shifted.fdiv daysPerEra
  let dayOfEra := (shifted - era * daysPerEra).toNat
  let yearOfEra := (dayOfEra - dayOfEra / 1460 + dayOfEra / 36524 - dayOfEra / 146096) / 365
  let dayOfYear := dayOfEra - (365 * yearOfEra + yearOfEra / 4 - yearOfEra / 100)
  let monthFromMarch := (5 * dayOfYear + 2) / 153
  let day := dayOfYear - (153 * monthFromMarch + 2) / 5 + 1
  let month := if monthFromMarch < 10 then monthFromMarch + 3 else monthFromMarch - 9
  let year := yearOfEra + era * 400 + (if month ≤ 2 then 1 else 0)
  (year, month, day)

def millisecondsPerDay : Int := 86400000

def moment (ms : Int) : Moment :=
  let days := ms.fdiv millisecondsPerDay
  let rest := (ms - days * millisecondsPerDay).toNat
  let (year, month, day) := civil days
  { year, month, day
    hour := rest / 3600000
    minute := rest / 60000 % 60
    second := rest / 1000 % 60
    millisecond := rest % 1000 }

/-- The greatest distance from the start of 1970 that a date may have, in milliseconds. -/
def range : Int := 8640000000000000

def milliseconds? (n : Number) : Option Int :=
  n.truncate?.bind fun ms => if ms.natAbs ≤ range.toNat then some ms else none

def padded (width n : Nat) : String :=
  let digits := Number.digitsOf n
  String.ofList (Number.zeros (width - digits.length) ++ digits)

/-- The tag of a release: date and time without separators. What is no date gives a tag as well. -/
def releaseTag : Option Int → String
  | some ms =>
    let m := moment ms
    "wheels-" ++ toString m.year ++ padded 2 m.month ++ padded 2 m.day ++ "-" ++ padded 2 m.hour ++
      padded 2 m.minute ++ padded 2 m.second
  | none => "wheels-NaNNaNNaN-NaNNaNNaN"

def clock (ms : Int) : String :=
  let m := moment ms
  padded 2 m.hour ++ ":" ++ padded 2 m.minute ++ ":" ++ padded 2 m.second

/-- The year in a time stamp; years that do not have four digits have a sign and six. -/
def stampYear (year : Int) : String :=
  if 0 ≤ year && year ≤ 9999 then padded 4 year.toNat
  else (if year < 0 then "-" else "+") ++ padded 6 year.natAbs

def stamp (ms : Int) : String :=
  let m := moment ms
  stampYear m.year ++ "-" ++ padded 2 m.month ++ "-" ++ padded 2 m.day ++ "T" ++ padded 2 m.hour ++
    ":" ++ padded 2 m.minute ++ ":" ++ padded 2 m.second ++ "." ++ padded 3 m.millisecond ++ "Z"

end Calendar

end Wheelhouse
