import Wheelhouse.Json.Basic
import Wheelhouse.Number.Shortest
import Wheelhouse.Text.Fields
import Wheelhouse.Text.Units

set_option autoImplicit false

namespace Wheelhouse.Json

def hexDigit (n : Nat) : Char :=
  Char.ofNat (if n < 10 then 48 + n else 87 + n)

def numbered (u : Nat) : List Char :=
  ['\\', 'u', hexDigit (u / 4096), hexDigit (u / 256 % 16), hexDigit (u / 16 % 16), hexDigit (u % 16)]

/-- How a character stands inside quotes. Half a surrogate pair is written by number. -/
def escape (c : Char) : List Char :=
  if c == '"' then ['\\', '"']
  else if c == '\\' then ['\\', '\\']
  else if c == '\n' then ['\\', 'n']
  else if c == '\r' then ['\\', 'r']
  else if c == '\t' then ['\\', 't']
  else if c.toNat == 8 then ['\\', 'b']
  else if c.toNat == 12 then ['\\', 'f']
  else if c.toNat < 32 then numbered c.toNat
  else
    match Text.half? c with
    | some u => numbered u
    | none => [c]

def quote (s : String) : List Char :=
  '"' :: (s.toList.flatMap escape ++ ['"'])

def numberChars : Number → List Char
  | .finite q => (Number.finite q).chars
  | _ => "null".toList

mutual

def compact : Json → List Char
  | .null => "null".toList
  | .bool b => (if b then "true" else "false").toList
  | .number n => numberChars n
  | .string s => quote s
  | .array items => '[' :: (Text.join [','] (compactItems items) ++ [']'])
  | .object members => '\x7b' :: (Text.join [','] (compactMembers members) ++ ['\x7d'])

def compactItems : List Json → List (List Char)
  | [] => []
  | item :: rest => compact item :: compactItems rest

def compactMembers : List (String × Json) → List (List Char)
  | [] => []
  | (name, value) :: rest => (quote name ++ ':' :: compact value) :: compactMembers rest

end

def newLine (level : Nat) : List Char :=
  '\n' :: List.replicate (2 * level) ' '

def block (left right : Char) (level : Nat) (parts : List (List Char)) : List Char :=
  if parts.isEmpty then [left, right]
  else
    left :: (newLine (level + 1) ++ Text.join (',' :: newLine (level + 1)) parts ++
      newLine level ++ [right])

mutual

def indented (level : Nat) : Json → List Char
  | .null => "null".toList
  | .bool b => (if b then "true" else "false").toList
  | .number n => numberChars n
  | .string s => quote s
  | .array items => block '[' ']' level (indentedItems (level + 1) items)
  | .object members => block '\x7b' '\x7d' level (indentedMembers (level + 1) members)

def indentedItems (level : Nat) : List Json → List (List Char)
  | [] => []
  | item :: rest => indented level item :: indentedItems level rest

def indentedMembers (level : Nat) : List (String × Json) → List (List Char)
  | [] => []
  | (name, value) :: rest =>
    (quote name ++ ':' :: ' ' :: indented level value) :: indentedMembers level rest

end

def line (v : Json) : String := String.ofList (compact v)

def page (v : Json) : String := String.ofList (indented 0 v)

end Wheelhouse.Json
