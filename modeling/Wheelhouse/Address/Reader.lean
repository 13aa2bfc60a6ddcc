import Wheelhouse.Address.Host
import Wheelhouse.Address.Path
import Wheelhouse.Text.Units

set_option autoImplicit false

namespace Wheelhouse

structure Address where
  scheme : String
  host : Option Host
  portNumber : Option Nat
  path : String
  query : String
  deriving DecidableEq

namespace Address

def hostText (a : Address) : String :=
  match a.host with
  | some host => host.text
  | none => ""

def isBlankOrControl (c : Char) : Bool := c.toNat ≤ 0x20

/-- The text of an address without blanks around it, tabs, line ends, and what follows a number sign. -/
def cleaned (cs : List Char) : List Char :=
  let middle := ((cs.dropWhile isBlankOrControl).reverse.dropWhile isBlankOrControl).reverse
  (middle.filter fun c => !(c == '\t' || c == '\n' || c == '\r')).takeWhile (· != '#')

def isSchemeChar (c : Char) : Bool := c.isAlphanum || c == '+' || c == '.' || c == '-'

def scheme? (cs : List Char) : Option (String × List Char) :=
  match cs.takeWhile isSchemeChar, cs.dropWhile isSchemeChar with
  | c :: name, ':' :: rest =>
    if c.isAlpha then some (String.ofList ((c :: name).map Char.toLower), rest) else none
  | _, _ => none

def cutQuery (cs : List Char) : List Char × String :=
  let (before, after) := Text.cut '?' cs
  (before, String.ofList (after.getD []))

/-- What stands before and after the colon of a host. Colons in brackets belong to the host itself. -/
def cutPort (inBrackets : Bool) : List Char → List Char × Option (List Char)
  | [] => ([], none)
  | c :: cs =>
    if c == ':' && !inBrackets then ([], some cs)
    else
      let (host, digits) := cutPort (c == '[' || (inBrackets && c != ']')) cs
      (c :: host, digits)

def portNumber? (usual : Nat) (digits : List Char) : Option Nat :=
  if digits.isEmpty then some usual
  else if digits.all Char.isDigit then (Number.natOfBase? 10 digits).filter (· < 0x10000)
  else none

/-- The host and the number of a place on a network, where a host must be. The usual number is left out. -/
def networkPlace? (usual : Nat) (host : List Char) (digits : List Char) : Option (Host × Option Nat) := do
  if host.isEmpty then none
  let number ← portNumber? usual digits
  return (← Host.read? host, if number = usual then none else some number)

/-- The host and the number of another place. Before a colon there must be a host. -/
def otherPlace? (host : List Char) (digits : Option (List Char)) : Option (Host × Option Nat) := do
  if host.isEmpty && digits.isSome then none
  let digits := digits.getD []
  let number ← portNumber? 0 digits
  return (← Host.readOther? host, if digits.isEmpty then none else some number)

def withoutUser? (cs : List Char) : Option (List Char) :=
  match Text.cutLast '@' cs with
  | some (_, place) => if place.isEmpty then none else some place
  | none => some cs

def cutPlace (kind : AddressKind) (cs : List Char) : List Char × List Char :=
  let goesOn (c : Char) : Bool := !(kind.isSlash c || c == '?')
  (cs.takeWhile goesOn, cs.dropWhile goesOn)

/-- An address of a usual scheme, whose path always starts with a slash. -/
def withPath (kind : AddressKind) (scheme : String) (host : Option Host) (portNumber : Option Nat)
    (cs : List Char) : Address :=
  let (path, query) := cutQuery cs
  let names :=
    match path with
    | c :: rest => if kind.isSlash c then rest else path
    | [] => []
  { scheme, host, portNumber, path := String.ofList (AddressPath.ofText kind names), query }

def readNetwork? (usual : Nat) (scheme : String) (cs : List Char) : Option Address := do
  let kind := AddressKind.network usual
  let (place, rest) := cutPlace kind (cs.dropWhile kind.isSlash)
  let (host, digits) := cutPort false (← withoutUser? place)
  let (host, number) ← networkPlace? usual host (digits.getD [])
  return withPath kind scheme (some host) number rest

/-- A host that stands for this machine is left out. -/
def fileHost? (cs : List Char) : Option (Option Host) :=
  if cs.isEmpty then some none
  else
    match Host.read? cs with
    | some (.domain name) => some (if name = "localhost".toList then none else some (.domain name))
    | host => host.map some

def readFile? (scheme : String) (cs : List Char) : Option Address :=
  let kind := AddressKind.file
  match cs with
  | a :: b :: rest =>
    if kind.isSlash a && kind.isSlash b then
      let (place, after) := cutPlace kind rest
      -- A drive is part of the path and not a machine.
      if (AddressPath.drive? place).isSome then some (withPath kind scheme none none rest)
      else (fileHost? place).map fun host => withPath kind scheme host none after
    else some (withPath kind scheme none none cs)
  | _ => some (withPath kind scheme none none cs)

def readOther? (scheme : String) (cs : List Char) : Option Address :=
  match cs with
  | '/' :: '/' :: rest => do
    let (place, after) := cutPlace .other rest
    let (host, digits) := cutPort false (← withoutUser? place)
    let (host, number) ← otherPlace? host digits
    if after.head? = some '/' then return withPath .other scheme (some host) number after
    else
      return { scheme, host := some host, portNumber := number, path := "", query := (cutQuery after).2 }
  | '/' :: _ => some (withPath .other scheme none none cs)
  | _ =>
    let (path, query) := cutQuery cs
    some { scheme, host := none, portNumber := none, query
           path := String.ofList (Text.percentEscape Host.isEscaped path) }

def read? (text : String) : Option Address := do
  let (scheme, rest) ← scheme? (cleaned (Text.wellFormed text).toList)
  match AddressKind.ofScheme scheme with
  | .network usual => readNetwork? usual scheme rest
  | .file => readFile? scheme rest
  | .other => readOther? scheme rest

end Address

end Wheelhouse
