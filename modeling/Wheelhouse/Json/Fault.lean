import Wheelhouse.Text.Units

/-!
Where and why a text stops being a value. A fault keeps the rest of the text from the place where it
stops; its wording counts the place in code units, and by line and column.
-/

set_option autoImplicit false

namespace Wheelhouse.Json

inductive Cause where
  | unexpected
  | afterValue
  | noName
  | noFurtherName
  | noColon
  | openObject
  | openArray
  | openQuote
  | badEscape
  | badNumberedEscape
  | controlCharacter
  | noDigit
  | noFractionDigit
  | noExponentDigit
  deriving DecidableEq

structure Fault where
  cause : Cause
  rest : List Char
  deriving DecidableEq

def Cause.text : Cause → String
  | .unexpected => "Unexpected end of JSON input"
  | .afterValue => "Unexpected non-whitespace character after JSON"
  | .noName => "Expected property name or '\x7d' in JSON"
  | .noFurtherName => "Expected double-quoted property name in JSON"
  | .noColon => "Expected ':' after property name in JSON"
  | .openObject => "Expected ',' or '\x7d' after property value in JSON"
  | .openArray => "Expected ',' or ']' after array element in JSON"
  | .openQuote => "Unterminated string in JSON"
  | .badEscape => "Bad escaped character in JSON"
  | .badNumberedEscape => "Bad Unicode escape in JSON"
  | .controlCharacter => "Bad control character in string literal in JSON"
  | .noDigit => "No number after minus sign in JSON"
  | .noFractionDigit => "Unterminated fractional number in JSON"
  | .noExponentDigit => "Exponent part is missing a number in JSON"

def advance : Nat × Nat → List Char → Nat × Nat
  | place, [] => place
  | (line, _), '\r' :: '\n' :: cs => advance (line + 1, 1) cs
  | (line, column), c :: cs =>
    if c == '\r' || c == '\n' then advance (line + 1, 1) cs
    else advance (line, column + (Text.unitsOf c).length) cs

def contextSize : Nat := 10

/-- A text around a place in code units. What is left out is shown by dots, unless the text is short. -/
def context (units : List Nat) (place : Nat) : String :=
  let quoted (us : List Nat) : String := "\"" ++ String.ofList (Text.ofCodeUnits us) ++ "\""
  if units.length ≤ 2 * contextSize then quoted units
  else if place < contextSize then quoted (units.take (place + contextSize)) ++ "..."
  else if place + contextSize < units.length then
    "..." ++ quoted ((units.drop (place - contextSize)).take (2 * contextSize)) ++ "..."
  else "..." ++ quoted (units.drop (place - contextSize))

/-- Texts that values turn into by mistake; they are shown as they are. -/
def mistaken : List String := ["[object Object]", "NaN", "Infinity", "undefined"]

namespace Fault

def before (text : String) (f : Fault) : List Char :=
  text.toList.take (text.toList.length - f.rest.length)

def place (text : String) (f : Fault) : Nat := (Text.codeUnits (f.before text)).length

def placed (text what : String) (f : Fault) : String :=
  let (line, column) := advance (1, 1) (f.before text)
  what ++ " at position " ++ toString (f.place text) ++ " (line " ++ toString line ++ " column " ++
    toString column ++ ")"

def strangerText (text : String) (f : Fault) : String :=
  if mistaken.contains text then "\"" ++ text ++ "\" is not valid JSON"
  else
    let units := Text.codeUnits text.toList
    let shown := Text.charOfUnit (units.getD (f.place text) 0)
    "Unexpected token '" ++ String.singleton shown ++ "', " ++ context units (f.place text) ++
      " is not valid JSON"

def message (text : String) (f : Fault) : String :=
  match f.cause, f.rest with
  | .unexpected, [] => Cause.unexpected.text
  | .unexpected, c :: _ =>
    if c == '"' then f.placed text "Unexpected string in JSON"
    else if c == '-' || c.isDigit then f.placed text "Unexpected number in JSON"
    else f.strangerText text
  | cause, _ => f.placed text cause.text

end Fault

end Wheelhouse.Json
