import Wheelhouse.Text.Fields

/-!
Paths. A path is the list of names from the root of the disk; the empty list is the root. Texts are
resolved name by name: empty names and `.` stay where they are, and `..` goes to the parent, at the
root nowhere. A path may end in an empty name: it was written with a slash at its end, leads to a folder
only, and is shown with the slash.
-/

set_option autoImplicit false

namespace Wheelhouse

abbrev Path := List String

namespace Path

def follow (p : Path) (name : String) : Path :=
  if name = "" || name = "." then p
  else if name = ".." then p.dropLast
  else p ++ [name]

def descend (p : Path) (names : List String) : Path := names.foldl follow p

def segments (text : String) : List String := Text.fields (· == '/') text

def resolve (cwd : Path) (text : String) : Path :=
  descend (if "/".toList.isPrefixOf text.toList then [] else cwd) (segments text)

/-- The path that a text means in a folder, where a slash at the end of the text is kept. -/
def join (cwd : Path) (text : String) : Path :=
  let p := resolve cwd text
  if "/".toList.isSuffixOf text.toList && p != [] then p ++ [""] else p

def text (p : Path) : String := "/" ++ Text.joined "/" p

/-- The system takes no name of more than 255 bytes. -/
def isTooLong (name : String) : Bool := 255 < name.utf8ByteSize

def isName (name : String) : Bool :=
  name != "" && name != "." && name != ".." && !name.toList.contains '/' &&
    !name.toList.contains '\x00' && !isTooLong name

def isMarked (p : Path) : Bool := p.getLast? == some ""

def bare (p : Path) : Path := if p.isMarked then p.dropLast else p

def child (p : Path) (name : String) : Path := p.bare ++ [name]

def parent (p : Path) : Path := p.bare.dropLast

def baseName (p : Path) : String := p.bare.getLastD ""

def relative : Path → Path → List String
  | a :: root, b :: target =>
    if a = b then relative root target else ((a :: root).map fun _ => "..") ++ b :: target
  | root, target => root.map (fun _ => "..") ++ target

def isInside (root target : Path) : Bool :=
  (relative root.bare target.bare).head? != some ".."

def relativeText (root target : Path) : String :=
  Text.joined "/" (relative root.bare target.bare)

theorem bare_of_not_isMarked {p : Path} (h : p.isMarked = false) : p.bare = p := by
  rw [bare, h, if_neg (by decide)]

theorem bare_append_slash (p : Path) : bare (p ++ [""]) = p := by
  simp [bare, isMarked]

theorem relative_append (root names : Path) : relative root (root ++ names) = names := by
  induction root with
  | nil => cases names <;> rfl
  | cons a root ih => simp [relative, ih]

theorem descend_append (p : Path) (xs ys : List String) :
    descend p (xs ++ ys) = descend (descend p xs) ys := List.foldl_append

end Path

end Wheelhouse
