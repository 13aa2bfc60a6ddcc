import Wheelhouse.Package.Version

set_option autoImplicit false

namespace Wheelhouse

inductive Operator where
  | identical
  | atLeast
  | atMost
  | differs
  | equals
  | compatible
  | above
  | below
  deriving DecidableEq

structure Condition where
  operator : Operator
  target : String
  deriving DecidableEq

namespace Condition

/-- The operators as they are written. An operator stands before those it starts with. -/
def operators : List (List Char × Operator) :=
  [("===".toList, .identical), (">=".toList, .atLeast), ("<=".toList, .atMost), ("!=".toList, .differs),
    ("==".toList, .equals), ("~=".toList, .compatible), (">".toList, .above), ("<".toList, .below)]

/-- The condition that a text without blanks around it writes. A text without an operator sets no
condition. -/
def parse? (cs : List Char) : Option Condition :=
  operators.findSome? fun (word, operator) =>
    (Text.dropBeginning? word cs).map fun target => ⟨operator, String.ofList (Text.trim target)⟩

/-- Whether a version is the target. A target that ends in `.*` stands for all versions that go on
after it; one with a local label must be the same text. -/
def isExactly (version target : String) : Bool :=
  match Text.dropEnding? ['*'] target.toList with
  | some series =>
    -- Only a point makes the star a wildcard; a local label does not take part.
    if series.getLast? = some '.' then series.isPrefixOf (Text.cut '+' version.toList).1
    else compareOrSame
  | none => compareOrSame
where
  compareOrSame : Bool :=
    match (Version.splitLocal target).2 with
    | some _ => version == target
    | none => Version.compareTexts version target == .eq

def isCompatible (version base : String) : Bool :=
  let baseRelease := (Version.parse base).release
  let series := baseRelease.dropLast
  2 ≤ baseRelease.length && Version.compareTexts version base != .lt &&
    Numeral.compareAll ((Version.parse version).release.take series.length) series == .eq

def holds (c : Condition) (version : String) : Bool :=
  match c.operator with
  | .identical => version == c.target
  | .atLeast => Version.compareTexts version c.target != .lt
  | .atMost => Version.compareTexts version c.target != .gt
  | .differs => !isExactly version c.target
  | .equals => isExactly version c.target
  | .compatible => isCompatible version c.target
  | .above => Version.compareTexts version c.target == .gt
  | .below => Version.compareTexts version c.target == .lt

end Condition

namespace Specifier

def parts (text : String) : List (List Char) :=
  ((Text.split (· == ',') text.toList).map Text.trim).filter fun part => !part.isEmpty

def parse (text : String) : List Condition := (parts text).filterMap Condition.parse?

def isSatisfied (specifier version : String) : Bool :=
  (parse specifier).all fun c => c.holds version

end Specifier

end Wheelhouse
