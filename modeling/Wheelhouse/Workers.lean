import Wheelhouse.Failure

/-!
Numbers of workers. Work is spread over a whole number of workers from one on; the outcome does not
depend on how many there are.
-/

set_option autoImplicit false

namespace Wheelhouse.Workers

def isGood : Number → Bool
  | .finite q => q.den = 1 && 1 ≤ q.num
  | .infinite negative => !negative
  | .undefined => false

def check (n : Number) : Except Failure Unit :=
  if isGood n then .ok () else .error .workers

end Wheelhouse.Workers
