import Wheelhouse.Json.Basic
import Wheelhouse.Json.Fault
import Wheelhouse.Number.Decimal

/-!
Reading values from text. `parse` accepts a whole text that is one value with white space around it.
Each reader takes the value that begins a text and gives what follows it, or the fault that it meets
first; every nested value uses one unit of fuel, and a text has no deeper nesting than characters.
-/

set_option autoImplicit false

namespace Wheelhouse.Json

def isSpace (c : Char) : Bool :=
  c == ' ' || c == '\n' || c == '\r' || c == '\t'

def skipSpace (cs : List Char) : List Char := cs.dropWhile isSpace

abbrev Reading (α : Type) := Except Fault (α × List Char)

/-- The number that digits to the base sixteen write: `n` has been read, and `count` digits follow. -/
def readHex : Nat → Nat → List Char → Reading Nat
  | 0, n, cs => .ok (n, cs)
  | _ + 1, _, [] => .error ⟨.badNumberedEscape, []⟩
  | count + 1, n, c :: cs =>
    match Number.digitValue? c with
    | some d => readHex count (n * 16 + d) cs
    | none => .error ⟨.badNumberedEscape, c :: cs⟩

def readUnit (cs : List Char) : Reading Nat := readHex 4 0 cs

def escaped? (c : Char) : Option Char :=
  if c == '"' || c == '\\' || c == '/' then some c
  else if c == 'n' then some '\n'
  else if c == 'r' then some '\r'
  else if c == 't' then some '\t'
  else if c == 'b' then some '\x08'
  else if c == 'f' then some '\x0c'
  else none

/-- What is wrong with a character after a backslash. Beyond U+00FF it counts as a mere stranger. -/
def escapeCause (c : Char) : Cause := if c.toNat ≤ 0xFF then .badEscape else .unexpected

/-- A character written by number: `cs` starts after the `u`. Two halves of a surrogate pair make one
character. -/
def readNumbered (cs : List Char) : Reading Char :=
  match readUnit cs with
  | .error f => .error f
  | .ok (high, rest) =>
    match Text.isHighSurrogate high, rest with
    | true, '\\' :: 'u' :: rest' =>
      match readUnit rest' with
      | .ok (low, rest'') =>
        if Text.isLowSurrogate low then .ok (Text.charOfPair high low, rest'')
        else .ok (Text.charOfUnit high, rest)
      | .error f => .error f
    | _, _ => .ok (Text.charOfUnit high, rest)

/-- The rest of a quoted text, whose characters so far are `seen`, last one first. -/
def readQuoted : Nat → List Char → List Char → Reading String
  | 0, _, cs => .error ⟨.openQuote, cs⟩
  | _ + 1, _, [] => .error ⟨.openQuote, []⟩
  | fuel + 1, seen, c :: cs =>
    if c == '"' then .ok (String.ofList seen.reverse, cs)
    else if c == '\\' then
      match cs with
      | [] => .error ⟨.unexpected, []⟩
      | e :: rest =>
        if e == 'u' then
          match readNumbered rest with
          | .ok (d, rest') => readQuoted fuel (d :: seen) rest'
          | .error f => .error f
        else
          match escaped? e with
          | some d => readQuoted fuel (d :: seen) rest
          | none => .error ⟨escapeCause e, e :: rest⟩
    else if c.toNat < 32 then .error ⟨.controlCharacter, c :: cs⟩
    else readQuoted fuel (c :: seen) cs

def readString (cs : List Char) : Reading String := readQuoted (cs.length + 1) [] cs

def exponentFault? : List Char → Option Fault
  | e :: rest =>
    if e == 'e' || e == 'E' then
      let digits :=
        match rest with
        | s :: after => if s == '+' || s == '-' then after else rest
        | [] => rest
      if (Number.spanDigits digits).1.isEmpty then some ⟨.noExponentDigit, digits⟩ else none
    else none
  | [] => none

def numberFault? (cs : List Char) : Option Fault :=
  let (whole, rest) := Number.spanDigits cs
  match whole with
  | [] => some ⟨.noDigit, cs⟩
  | '0' :: d :: ds => some ⟨.unexpected, d :: ds ++ rest⟩
  | _ =>
    match Number.readFraction rest with
    | some ([], after) => some ⟨.noFractionDigit, after⟩
    | some (_, after) => exponentFault? after
    | none => exponentFault? rest

def readUnsigned (cs : List Char) : Reading Number :=
  match numberFault? cs with
  | some f => .error f
  | none =>
    match Number.readDecimal true cs with
    | some (d, rest) => .ok (d.toNumber, rest)
    | none => .error ⟨.unexpected, cs⟩

def readNumber : List Char → Reading Number
  | '-' :: rest => (readUnsigned rest).map fun r => (r.1.negate, r.2)
  | cs => readUnsigned cs

def readWord (v : Json) : List Char → List Char → Reading Json
  | [], cs => .ok (v, cs)
  | _ :: _, [] => .error ⟨.unexpected, []⟩
  | w :: ws, c :: cs => if w = c then readWord v ws cs else .error ⟨.unexpected, c :: cs⟩

mutual

def readValue : Nat → List Char → Reading Json
  | 0, cs => .error ⟨.unexpected, cs⟩
  | fuel + 1, cs =>
    match skipSpace cs with
    | [] => .error ⟨.unexpected, []⟩
    | '\x7b' :: rest =>
      match skipSpace rest with
      | '\x7d' :: after => .ok (.object [], after)
      | start => readMembers fuel [] start
    | '[' :: rest =>
      match skipSpace rest with
      | ']' :: after => .ok (.array [], after)
      | start => readItems fuel [] start
    | '"' :: rest => (readString rest).map fun r => (.string r.1, r.2)
    | 't' :: rest => readWord (.bool true) ['r', 'u', 'e'] rest
    | 'f' :: rest => readWord (.bool false) ['a', 'l', 's', 'e'] rest
    | 'n' :: rest => readWord .null ['u', 'l', 'l'] rest
    | c :: rest =>
      if c == '-' || c.isDigit then (readNumber (c :: rest)).map fun r => (.number r.1, r.2)
      else .error ⟨.unexpected, c :: rest⟩

/-- The items of an array, of which `seen` have been read, last one first. -/
def readItems : Nat → List Json → List Char → Reading Json
  | 0, _, cs => .error ⟨.unexpected, cs⟩
  | fuel + 1, seen, cs =>
    match readValue fuel cs with
    | .error f => .error f
    | .ok (v, rest) =>
      match skipSpace rest with
      | ',' :: rest' => readItems fuel (v :: seen) rest'
      | ']' :: rest' => .ok (.array (v :: seen).reverse, rest')
      | rest' => .error ⟨.openArray, rest'⟩

def readMembers : Nat → List (String × Json) → List Char → Reading Json
  | 0, _, cs => .error ⟨.unexpected, cs⟩
  | fuel + 1, seen, cs =>
    match skipSpace cs with
    | '"' :: start =>
      match readString start with
      | .error f => .error f
      | .ok (name, rest) =>
        match skipSpace rest with
        | ':' :: rest' =>
          match readValue fuel rest' with
          | .error f => .error f
          | .ok (v, rest'') =>
            match skipSpace rest'' with
            | ',' :: after => readMembers fuel (setMember name v seen) after
            | '\x7d' :: after => .ok (.object (setMember name v seen), after)
            | after => .error ⟨.openObject, after⟩
        | rest' => .error ⟨.noColon, rest'⟩
    | start => .error ⟨if seen.isEmpty then .noName else .noFurtherName, start⟩

end

def parse (s : String) : Except Fault Json :=
  let cs := s.toList
  match readValue (2 * cs.length + 1) cs with
  | .error f => .error f
  | .ok (v, rest) =>
    match skipSpace rest with
    | [] => .ok v
    | rest' => .error ⟨.afterValue, rest'⟩

def parse? (s : String) : Option Json := (parse s).toOption

end Wheelhouse.Json
