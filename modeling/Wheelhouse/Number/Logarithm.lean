import Wheelhouse.Number.Binary64

/-!
Natural logarithms, rounded to the nearest number. The logarithm is worked out with `bits` bits after
the point, from `ln (2 ^ e · f) = e · ln 2 + ln f` and the series of the inverse hyperbolic tangent.
-/

set_option autoImplicit false

namespace Wheelhouse

namespace Number

def bits : Nat := 160

def scale : Int := 1 <<< bits

/-- The sum of `power / (2 i + 1)`, where each power is the one before times `square`. -/
def oddSeries (square : Int) : Nat → Nat → Int → Int
  | 0, _, _ => 0
  | terms + 1, i, power =>
    power / (2 * i + 1) + oddSeries square terms (i + 1) (power * square / scale)

/-- The logarithm of a number from one to two, times the unit. -/
def scaledLogarithm (f : Rat) : Int :=
  let z := ((f - 1) / (f + 1) * scale).floor
  2 * oddSeries (z * z / scale) 60 0 z

def logarithm (q : Rat) : Number :=
  let e := binaryExponent q
  let sum := e * scaledLogarithm 2 + scaledLogarithm (q * (2 : Rat) ^ (-e))
  round (sum / (scale : Rat))

end Number

end Wheelhouse
