import Wheelhouse.Text.Fields
import Wheelhouse.Text.Percent

/-!
Paths of addresses. A path is a list of names. Names that stand for points are followed: one point for the
folder itself, two for the one above. An address of a file may start with the name of a drive.
-/

set_option autoImplicit false

namespace Wheelhouse

/-- What an address is taken for. The hosts of a network have a usual number, which need not be said. -/
inductive AddressKind where
  | file
  | network (usualPort : Nat)
  | other
  deriving DecidableEq

namespace AddressKind

def ofScheme (scheme : String) : AddressKind :=
  if scheme = "file" then .file
  else
    match [("http", 80), ("https", 443), ("ws", 80), ("wss", 443), ("ftp", 21)].lookup scheme with
    | some usualPort => .network usualPort
    | none => .other

def isSlash (kind : AddressKind) (c : Char) : Bool := c == '/' || (c == '\\' && kind ≠ .other)

end AddressKind

namespace AddressPath

abbrev Names := List (List Char)

/-- How many points a name stands for, if it stands for points, which may be written by number. -/
def dots? : List Char → Option Nat
  | [] => some 0
  | '.' :: rest => (dots? rest).map (· + 1)
  | '%' :: '2' :: e :: rest => if e == 'e' || e == 'E' then (dots? rest).map (· + 1) else none
  | _ => none

/-- The letter of a drive, which is named by a letter and a colon or a bar. -/
def drive? : List Char → Option Char
  | [letter, mark] => if letter.isAlpha && (mark == ':' || mark == '|') then some letter else none
  | _ => none

def startsLikeDrive : List Char → Bool
  | letter :: ':' :: _ => letter.isAlpha
  | _ => false

def isEscaped (c : Char) : Bool :=
  c.toNat ≤ 0x20 || 0x7F ≤ c.toNat || "\"#<>?\x60\x7b\x7d".toList.contains c

/-- The folder above, if there is one. There is none above a drive. -/
def above? (kind : AddressKind) (names : Names) : Option Names :=
  match names with
  | [] => none
  | [name] => if kind = .file && startsLikeDrive name then none else some []
  | _ => some names.dropLast

/-- A name as it is kept: that of a drive has a colon. -/
def kept (kind : AddressKind) (names : Names) (name : List Char) : List Char :=
  match if kind = .file && names.isEmpty then drive? name else none with
  | some letter => [letter, ':']
  | none => Text.percentEscape isEscaped name

/-- Goes from names to a further one. Where the last one stands for a folder, an empty name ends the path. -/
def go (kind : AddressKind) (names : Names) (name : List Char) (isLast : Bool) : Names :=
  match dots? name with
  | some 1 => if isLast then names ++ [[]] else names
  | some 2 =>
    match above? kind names with
    | some folder => if isLast then folder ++ [[]] else folder
    | none => if isLast && kind ≠ .other then names ++ [[]] else names
  | _ => names ++ [kept kind names name]

def follow (kind : AddressKind) (names : Names) : Names → Names
  | [] => names
  | name :: rest => follow kind (go kind names name rest.isEmpty) rest

def ofText (kind : AddressKind) (cs : List Char) : List Char :=
  (follow kind [] (Text.split kind.isSlash cs)).flatMap fun name => '/' :: name

end AddressPath

end Wheelhouse
