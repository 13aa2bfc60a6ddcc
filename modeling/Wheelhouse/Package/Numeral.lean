import Wheelhouse.Number.Decimal

/-!
The numbers in versions. Numbers below 2⁵³ are exact; larger ones are rounded as `Number` rounds
them, and those beyond its range are all the same, greater than every other.
-/

set_option autoImplicit false

namespace Wheelhouse

inductive Numeral where
  | finite (value : Nat)
  | infinite
  deriving DecidableEq

namespace Numeral

def zero : Numeral := .finite 0

def ofNat (n : Nat) : Numeral :=
  if n < 1 <<< 53 then .finite n
  else
    match Number.ofNat n with
    | .finite q => .finite q.floor.toNat
    | _ => .infinite

def ofDigits (ds : List Char) : Numeral := ofNat (Number.natOfDigits ds)

def compare : Numeral → Numeral → Ordering
  | .finite a, .finite b => Ord.compare a b
  | .finite _, .infinite => .lt
  | .infinite, .finite _ => .gt
  | .infinite, .infinite => .eq

def compareZeros : List Numeral → Ordering
  | [] => .eq
  | b :: bs => (compare zero b).then (compareZeros bs)

/-- Compares lists number by number; a list that ends early goes on with zeros. -/
def compareAll : List Numeral → List Numeral → Ordering
  | [], bs => compareZeros bs
  | a :: as, bs => (compare a (bs.headD zero)).then (compareAll as bs.tail)

/-- Compares numbers that may be missing; a missing one comes first. -/
def compareOption : Option Numeral → Option Numeral → Ordering
  | none, none => .eq
  | none, some _ => .lt
  | some _, none => .gt
  | some a, some b => compare a b

@[simp] theorem compare_self (a : Numeral) : compare a a = .eq := by
  cases a <;> simp [compare]

@[simp] theorem compareAll_self (as : List Numeral) : compareAll as as = .eq := by
  induction as with
  | nil => rfl
  | cons a as ih => simp [compareAll, ih]

end Numeral

end Wheelhouse
