import Wheelhouse.Failure
import Wheelhouse.Text.Blank

set_option autoImplicit false

namespace Wheelhouse

structure PublishScope where
  commit : String
  branch : String
  isRelease : Bool
  /-- A release must have one. -/
  version : Option String

namespace PublishScope

def nightly : String := "nightly"

def isSegment (s : String) : Bool := s != "" && !s.toList.contains '/'

def badCommit (commit : String) : Failure :=
  .configuration ("잘못된 커밋 식별자: '" ++ commit ++ "'") (some [("commit", .string commit)])

def badVersion (version : Option String) : Failure :=
  .configuration "릴리스 업로드에는 유효한 버전이 필요합니다"
    (some [("version", match version with | some v => .string v | none => .null)])

def destinations (scope : PublishScope) (mainBranch : String) : Except Failure (List String) := do
  let commit := Text.trimmed scope.commit
  if !isSegment commit then throw (badCommit scope.commit)
  let main := if scope.branch = mainBranch then [nightly] else []
  if scope.isRelease then
    let version := (scope.version.map Text.trimmed).getD ""
    if !isSegment version then throw (badVersion scope.version)
    return commit :: main ++ [version]
  else return commit :: main

end PublishScope

end Wheelhouse
