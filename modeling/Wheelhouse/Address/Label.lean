import Wheelhouse.Address.LabelTable

/-!
Labels of a domain name with characters beyond ASCII. A label may not start with a mark, may have
invisible joiners only where they change how its letters look, and may not mix directions.
-/

set_option autoImplicit false

namespace Wheelhouse.Label

def isMark (c : Char) : Bool := nonspacing.contains c.toNat || spacing.contains c.toNat

/-! ### Joiners -/

def nonJoiner : Char := '\u200C'

def joiner : Char := '\u200D'

def isVirama (c : Char) : Bool := viramas.contains c.toNat

def joinsNext (c : Char) : Bool := joinsAfter.contains c.toNat || joinsBoth.contains c.toNat

def joinsLast (c : Char) : Bool := joinsBefore.contains c.toNat || joinsBoth.contains c.toNat

/-- Whether the first joiner of a label may stand where it does, if there is one. The characters before it
come last one first. -/
def firstJoiner? (before : List Char) : List Char → Option Bool
  | [] => none
  | c :: after =>
    if c == nonJoiner || c == joiner then
      some (before.head?.any isVirama ||
        (c == nonJoiner && before.any joinsNext && after.any joinsLast))
    else firstJoiner? (c :: before) after

/-! ### Direction -/

def isRightToLeft (c : Char) : Bool := rightToLeft.contains c.toNat

def isArabicDigit (c : Char) : Bool := arabicDigits.contains c.toNat

def isDigit (c : Char) : Bool := digits.contains c.toNat

def isNonspacing (c : Char) : Bool := nonspacing.contains c.toNat

def canEnd (c : Char) : Bool := isRightToLeft c || isArabicDigit c || isDigit c

/-- Whether the directions of a label agree. Where something is written from right to left, nothing may be
written from left to right, and digits are of one kind. -/
def hasOneDirection (label : List Char) : Bool :=
  if label.any fun c => isRightToLeft c || isArabicDigit c then
    label.all (fun c => canEnd c || isNonspacing c || neutral.contains c.toNat) &&
      (label.reverse.find? fun c => !isNonspacing c).any canEnd &&
      !(label.any isDigit && label.any isArabicDigit)
  else true

def isValid (label : List Char) : Bool :=
  match label with
  | [] => false
  | c :: _ => !isMark c && (firstJoiner? [] label).getD (hasOneDirection label)

end Wheelhouse.Label
