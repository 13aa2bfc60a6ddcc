import Wheelhouse.Number.Decimal
import Wheelhouse.Text.Fields

/-!
Internet addresses of 32 bits. They are printed as four decimal numbers, and may be read from fewer, of
which the last one fills the rest, and from numbers of base eight or sixteen.
-/

set_option autoImplicit false

namespace Wheelhouse.Ipv4

/-- The numbers of an address. An empty one at its end does not count. -/
def parts (cs : List Char) : List (List Char) :=
  let all := Text.split (· == '.') cs
  if 1 < all.length && all.getLast? = some [] then all.dropLast else all

def hexDigits? (cs : List Char) : Option (List Char) := Text.dropBeginning? "0x".toList cs

/-- Whether a name looks like an address: its last part is a number. -/
def looksLike (cs : List Char) : Bool :=
  match (parts cs).getLast? with
  | some last =>
    (!last.isEmpty && last.all Char.isDigit) ||
      (hexDigits? last).any fun digits => digits.all fun c => (Number.digitValue? c).isSome
  | none => false

def number? (cs : List Char) : Option Nat :=
  match hexDigits? cs, cs with
  | some digits, _ => if digits.isEmpty then some 0 else Number.natOfBase? 16 digits
  | none, '0' :: d :: ds => Number.natOfBase? 8 (d :: ds)
  | none, _ => Number.natOfBase? 10 cs

/-- The address of numbers that fill the given number of bytes: each but the last fills one. -/
def ofNumbers? : Nat → List Nat → Option Nat
  | 0, _ => none
  | _, [] => none
  | bytes + 1, [n] => if n < 1 <<< (8 * (bytes + 1)) then some n else none
  | bytes + 1, n :: rest =>
    if n < 256 then (ofNumbers? bytes rest).map (n <<< (8 * bytes) + ·) else none

def read? (cs : List Char) : Option Nat := ((parts cs).mapM number?).bind (ofNumbers? 4)

def text (address : Nat) : String :=
  Text.joined "." ([24, 16, 8, 0].map fun bits => toString (address >>> bits % 256))

end Wheelhouse.Ipv4
