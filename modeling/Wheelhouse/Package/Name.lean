import Wheelhouse.Text.LowerCase

set_option autoImplicit false

namespace Wheelhouse.PackageName

def isSeparator (c : Char) : Bool :=
  c == '-' || c == '_' || c == '.'

/-- Every run of separators becomes one hyphen. -/
def collapse : List Char → List Char
  | [] => []
  | c :: cs =>
    if isSeparator c then
      match collapse cs with
      | '-' :: rest => '-' :: rest
      | rest => '-' :: rest
    else c :: collapse cs

def normalize (name : String) : String :=
  String.ofList (collapse (Text.lower name.toList))

/-- Whether a name starts and ends with a letter or digit and has only characters of a class
in between. -/
def isSpelling (inner : Char → Bool) (cs : List Char) : Bool :=
  match cs.head?, cs.getLast? with
  | some first, some last => first.isAlphanum && last.isAlphanum && cs.all inner
  | _, _ => false

/-- The characters of a name in the file name of a wheel, where hyphens separate the fields. -/
def isWheelNameChar (c : Char) : Bool :=
  c.isAlphanum || c == '.' || c == '_'

def isNameChar (c : Char) : Bool :=
  isWheelNameChar c || c == '-'

def isName (name : String) : Bool := isSpelling isNameChar name.toList

theorem collapse_idem (cs : List Char) : collapse (collapse cs) = collapse cs := by
  induction cs with
  | nil => rfl
  | cons c cs ih =>
    by_cases hc : isSeparator c = true
    · cases h : collapse cs with
      | nil =>
        rw [collapse, if_pos hc, h]
        rfl
      | cons d rest =>
        rw [h] at ih
        by_cases hd : d = '-'
        · subst hd
          rw [collapse, if_pos hc, h]
          exact ih
        · have hsplit : collapse (c :: cs) = '-' :: d :: rest := by
            rw [collapse, if_pos hc, h]
            split
            · simp_all
            · rfl
          rw [hsplit, collapse, if_pos (by decide), ih]
          split
          · simp_all
          · rfl
    · rw [collapse, if_neg hc, collapse, if_neg hc, ih]

end Wheelhouse.PackageName
