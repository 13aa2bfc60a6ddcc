import Wheelhouse.Number.Decimal
import Wheelhouse.Text.Fields

/-!
Tables of code points, written as texts. The entries of a table stand apart by blanks and line ends. An
entry names a code point or a run of them in base sixteen, and after a colon the values that the table
gives for it, with points between them: `AA:61` or `FF21-FF3A:61` or `C0:41.300`.
-/

set_option autoImplicit false

namespace Wheelhouse.Text

structure CodePointRun where
  first : Nat
  last : Nat
  values : List Nat

abbrev CodePointTable := List CodePointRun

def CodePointRun.covers (r : CodePointRun) (n : Nat) : Bool := r.first ≤ n && n ≤ r.last

namespace CodePointTable

def readNumber (cs : List Char) : Nat :=
  cs.foldl (fun n c => 16 * n + (Number.digitValue? c).getD 0) 0

def readRun (cs : List Char) : CodePointRun :=
  let place := cs.takeWhile (· != ':')
  let values := cs.drop (place.length + 1)
  let first := place.takeWhile (· != '-')
  let last := place.drop (first.length + 1)
  { first := readNumber first
    last := readNumber (if last.isEmpty then first else last)
    values := if values.isEmpty then [] else (split (· == '.') values).map readNumber }

def read (s : String) : CodePointTable :=
  ((split (fun c => c == ' ' || c == '\n') s.toList).filter (!·.isEmpty)).map readRun

def run? (table : CodePointTable) (n : Nat) : Option CodePointRun := table.find? (·.covers n)

def contains (table : CodePointTable) (n : Nat) : Bool := (table.run? n).isSome

/-- What a code point is mapped to. A single value is that of the first of a run, and the others follow it. -/
def image? (table : CodePointTable) (n : Nat) : Option (List Nat) :=
  (table.run? n).map fun r =>
    match r.values with
    | [value] => [value + (n - r.first)]
    | values => values

/-- The value that a table gives for a whole run; zero if it gives none. -/
def value (table : CodePointTable) (n : Nat) : Nat :=
  match table.run? n with
  | some r => r.values.headD 0
  | none => 0

end CodePointTable

end Wheelhouse.Text
