/-!
Numbers with a limited precision. A `Number` is a rational number that has a binary64 form, one of the
two infinities, or the outcome of a computation that has none. `Number.round` takes a rational number
to the nearest number that has such a form; of two equally near ones it takes the one with the even
last bit. Signs of zeros are not kept.
-/

set_option autoImplicit false

namespace Wheelhouse

inductive Number where
  | finite (value : Rat)
  | infinite (negative : Bool)
  | undefined
  deriving DecidableEq

namespace Number

/-- The integer nearest to a rational number, the even one of two. -/
def nearestEven (q : Rat) : Int :=
  let low := q.floor
  let rest := q - low
  if rest < 1 / 2 then low
  else if 1 / 2 < rest then low + 1
  else if low % 2 = 0 then low
  else low + 1

def binaryExponent (q : Rat) : Int :=
  let n := q.num.natAbs
  -- The quotient of two numbers reaches this power of two or the one below.
  let k : Int := n.log2 - q.den.log2
  if q.den <<< k.toNat ≤ n <<< (-k).toNat then k else k - 1

/-- The exponent of the last bit that is kept of a positive number: 53 bits in all, fewer for numbers
close to zero. -/
def lastBit (q : Rat) : Int :=
  max (binaryExponent q - 52) (-1074)

def round (q : Rat) : Number :=
  if q = 0 then .finite 0
  else
    let bit := lastBit q.abs
    let value := nearestEven (q * (2 : Rat) ^ (-bit)) * (2 : Rat) ^ bit
    if value.abs < (2 : Rat) ^ (1024 : Int) then .finite value else .infinite (value < 0)

def ofNat (n : Nat) : Number := round n

@[simp] theorem round_zero : round 0 = .finite 0 := rfl

def isFinite : Number → Bool
  | .finite _ => true
  | _ => false

def isPositive : Number → Bool
  | .finite q => 0 < q
  | .infinite negative => !negative
  | .undefined => false

/-- Whether the first number is greater than the second; nothing compares with the undefined one. -/
def exceeds : Number → Number → Bool
  | .finite a, .finite b => b < a
  | .finite _, .infinite negative => negative
  | .infinite negative, .finite _ => !negative
  | .infinite a, .infinite b => !a && b
  | _, _ => false

def times (n : Number) (factor : Nat) : Number :=
  match n with
  | .finite q => round (q * factor)
  | other => other

def truncate? : Number → Option Int
  | .finite q => some (if q < 0 then -((-q).floor) else q.floor)
  | _ => none

def nat? : Number → Option Nat
  | .finite q => if q.den = 1 && 0 ≤ q.num then some q.num.toNat else none
  | _ => none

end Number

end Wheelhouse
