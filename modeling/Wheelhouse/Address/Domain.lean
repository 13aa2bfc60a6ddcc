import Wheelhouse.Address.DomainTable
import Wheelhouse.Address.Label
import Wheelhouse.Address.Punycode
import Wheelhouse.Text.Canonical
import Wheelhouse.Text.LowerCase

/-!
Domain names. `toAscii?` brings a name to the form that is looked up: characters that stand for others are
replaced, and labels with characters beyond ASCII are written with letters and digits, after a beginning
that marks them. A label that comes with this beginning must be one that would be written so.
-/

set_option autoImplicit false

namespace Wheelhouse.Domain

def isAscii (c : Char) : Bool := c.toNat < 0x80

def mapChar? (c : Char) : Option (List Char) :=
  if disallowed.contains c.toNat then none
  else
    match mappings.image? c.toNat with
    | some codes => some (codes.map Char.ofNat)
    | none => some [Text.lowerChar c]

def map? (name : List Char) : Option (List Char) := (name.mapM mapChar?).map List.flatten

def mark : List Char := "xn--".toList

/-- The label that is written after the mark, if it is one that has to be. -/
def decode? (code : List Char) : Option (List Char) := do
  -- What is marked twice is not written by anyone.
  if mark.isPrefixOf code then none
  let label ← Punycode.decode? code
  if label.all isAscii then none
  if map? label ≠ some label || Text.canonical label ≠ label then none
  if Label.isValid label then return label else none

def labelToAscii? (label : List Char) : Option (List Char) :=
  match Text.dropBeginning? mark label with
  | some code => if label.all isAscii && (decode? code).isSome then some label else none
  | none =>
    if label.all isAscii then some label
    else if Label.isValid label then some (mark ++ Punycode.encode label)
    else none

def labels (name : List Char) : List (List Char) := Text.split (· == '.') name

def toAscii? (name : List Char) : Option (List Char) := do
  let mapped ← if name.all isAscii then some (name.map Char.toLower) else map? name
  let parts ← (labels (Text.canonical mapped)).mapM labelToAscii?
  return Text.join ['.'] parts

end Wheelhouse.Domain
