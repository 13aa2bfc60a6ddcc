import Wheelhouse.Address.Domain
import Wheelhouse.Address.Ipv4
import Wheelhouse.Address.Ipv6
import Wheelhouse.Text.Percent

set_option autoImplicit false

namespace Wheelhouse

inductive Host where
  | domain (name : List Char)
  | ipv4 (address : Nat)
  | ipv6 (groups : List Nat)
  | other (name : List Char)
  deriving DecidableEq

namespace Host

def text : Host → String
  | .domain name => String.ofList name
  | .ipv4 address => Ipv4.text address
  | .ipv6 groups => "[" ++ Ipv6.text groups ++ "]"
  | .other name => String.ofList name

def isControl (c : Char) : Bool := c.toNat ≤ 0x1F || c.toNat = 0x7F

def isForbidden (c : Char) : Bool := "\x00\t\n\r #/:<>?@[\\]^|".toList.contains c

def isForbiddenInDomain (c : Char) : Bool := isForbidden c || isControl c || c == '%'

def bracketed? (cs : List Char) : Option Host :=
  if cs.getLast? = some ']' then (Ipv6.read? cs.dropLast).map .ipv6 else none

def readDomain? (cs : List Char) : Option Host := do
  let plain ← Text.decode? ⟨(Text.percentUnescape cs).toArray⟩
  let name ← Domain.toAscii? plain.toList
  if name.isEmpty || name.any isForbiddenInDomain then none
  else if Ipv4.looksLike name then (Ipv4.read? name).map .ipv4
  else some (.domain name)

def isEscaped (c : Char) : Bool := isControl c || 0x80 ≤ c.toNat

def read? : List Char → Option Host
  | '[' :: rest => bracketed? rest
  | cs => readDomain? cs

/-- The host of an address of another scheme, which may be empty. -/
def readOther? : List Char → Option Host
  | '[' :: rest => bracketed? rest
  | cs => if cs.any isForbidden then none else some (.other (Text.percentEscape isEscaped cs))

end Host

end Wheelhouse
