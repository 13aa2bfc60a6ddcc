import Wheelhouse.Disk.Path

set_option autoImplicit false

namespace Wheelhouse

inductive SystemCode where
  | notFound
  | notFolder
  | isFolder
  | taken
  | nameTooLong
  deriving DecidableEq

namespace SystemCode

def name : SystemCode → String
  | .notFound => "ENOENT"
  | .notFolder => "ENOTDIR"
  | .isFolder => "EISDIR"
  | .taken => "EEXIST"
  | .nameTooLong => "ENAMETOOLONG"

def text : SystemCode → String
  | .notFound => "no such file or directory"
  | .notFolder => "not a directory"
  | .isFolder => "illegal operation on a directory"
  | .taken => "file already exists"
  | .nameTooLong => "name too long"

end SystemCode

inductive CopyProblem where
  | samePlace
  | fileOverFolder
  | folderOverFile
  | intoItself
  deriving DecidableEq

inductive DiskError where
  | system (code : SystemCode) (call : String) (shown : Option String)
  | copy (problem : CopyProblem) (source target : Path)
  | nullCharacter (shown : String)
  deriving DecidableEq

namespace DiskError

def digit (n : Nat) : Char := Char.ofNat (if n < 10 then 48 + n else 55 + n)

def visible (c : Char) : List Char :=
  if c == '\\' || c == '\'' then ['\\', c]
  else if c.toNat < 32 then
    ['\\', 'x', digit (c.toNat / 16), digit (c.toNat % 16)]
  else [c]

def shownLength : Nat := 128

def quoted (s : String) : String :=
  let cs := '\'' :: (s.toList.flatMap visible ++ ['\''])
  if cs.length ≤ shownLength then String.ofList cs else String.ofList (cs.take shownLength) ++ "..."

def text : DiskError → String
  | .system code call none => code.name ++ ": " ++ code.text ++ ", " ++ call
  | .system code call (some shown) =>
    code.name ++ ": " ++ code.text ++ ", " ++ call ++ " '" ++ shown ++ "'"
  | .copy .samePlace _ _ => "Source and destination must not be the same."
  | .copy .fileOverFolder s t =>
    "Cannot overwrite directory '" ++ t.text ++ "' with non-directory '" ++ s.text ++ "'."
  | .copy .folderOverFile s t =>
    "Cannot overwrite non-directory '" ++ t.text ++ "' with directory '" ++ s.text ++ "'."
  | .copy .intoItself s t =>
    "Cannot copy '" ++ s.text ++ "' to a subdirectory of itself, '" ++ t.text ++ "'."
  | .nullCharacter shown =>
    "The argument 'path' must be a string, Uint8Array, or URL without null bytes. Received " ++
      quoted shown

def kindName : DiskError → String
  | .nullCharacter _ => "TypeError"
  | _ => "Error"

def code? : DiskError → Option String
  | .system code _ _ => some code.name
  | .copy _ _ _ => none
  | .nullCharacter _ => some "ERR_INVALID_ARG_VALUE"

/-- An error of the operating system about a path that was given by another text. -/
def shownAs (shown : String) : DiskError → DiskError
  | .system code call (some _) => .system code call (some shown)
  | e => e

end DiskError

end Wheelhouse
