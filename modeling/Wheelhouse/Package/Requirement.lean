import Wheelhouse.Package.Name
import Wheelhouse.Text.Blank
import Wheelhouse.Text.Fields

set_option autoImplicit false

namespace Wheelhouse

structure Requirement where
  name : String
  extras : Option String
  /-- The condition on the version, without blanks. -/
  specifier : String
  marker : Option String
  deriving DecidableEq

namespace Requirement

def normalizedName (r : Requirement) : String := PackageName.normalize r.name

/-- Whether a comment can start at a text: a number sign, and no line end after it. -/
def isComment : List Char → Bool
  | '#' :: rest => !rest.any Text.isLineEnd
  | _ => false

def beforeComment : List Char → List Char
  | [] => []
  | c :: cs => if Text.isBlank c && isComment cs then [] else c :: beforeComment cs

def stripComment (cs : List Char) : List Char :=
  if isComment cs then [] else beforeComment cs

/-- Whether a text is an address: letters or plus signs, then a colon and two slashes. -/
def isAddress (cs : List Char) : Bool :=
  let isSchemeChar (c : Char) : Bool := c.isAlpha || c == '+'
  !(cs.takeWhile isSchemeChar).isEmpty &&
    [':', '/', '/'].isPrefixOf (cs.dropWhile isSchemeChar)

/-- The longest name that a text starts with: it ends in a letter or digit. -/
def spanName (cs : List Char) : List Char × List Char :=
  let run := cs.takeWhile PackageName.isNameChar
  let name := (run.reverse.dropWhile fun c => !c.isAlphanum).reverse
  (name, cs.drop name.length)

def readExtras (cs : List Char) : Option (List Char × List Char) :=
  match cs with
  | '[' :: rest =>
    match rest.dropWhile (· != ']') with
    | ']' :: after => some ('[' :: rest.takeWhile (· != ']') ++ [']'], after)
    | _ => none
  | _ => none

def nonEmpty (cs : List Char) : Option String :=
  if cs.isEmpty then none else some (String.ofList cs)

def ofTrimmed (cs : List Char) : Option Requirement :=
  if cs.isEmpty || ['-'].isPrefixOf cs || isAddress cs then none
  else
    match cs.head? with
    | none => none
    | some first =>
      if !first.isAlphanum then none
      else
        let (name, afterName) := spanName cs
        let rest := afterName.dropWhile Text.isBlank
        let (extras, afterExtras) :=
          match readExtras rest with
          | some (extras, after) => (some (String.ofList extras), after.dropWhile Text.isBlank)
          | none => (none, rest)
        if afterExtras.any Text.isLineEnd then none
        else
          let (condition, marker) := Text.cut ';' afterExtras
          some
            { name := String.ofList name
              extras
              specifier := String.ofList (Text.removeBlanks condition)
              marker := marker.bind fun m => nonEmpty (Text.trim m) }

def parse? (line : String) : Option Requirement :=
  ofTrimmed (Text.trim (stripComment line.toList))

def pin (name version : String) : String := name ++ "==" ++ version

end Requirement

end Wheelhouse
