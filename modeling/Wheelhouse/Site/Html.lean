import Wheelhouse.Text.Fields
import Wheelhouse.Text.Percent

/-!
Pages of a package index. A page has a title and links, one in each line; what stands in the title or
in a link is escaped, so that no text can end the element it stands in.
-/

set_option autoImplicit false

namespace Wheelhouse.Html

def escapeChar (c : Char) : List Char :=
  if c == '&' then "&amp;".toList
  else if c == '<' then "&lt;".toList
  else if c == '>' then "&gt;".toList
  else if c == '"' then "&quot;".toList
  else [c]

def escape (s : String) : String := String.ofList (s.toList.flatMap escapeChar)

structure Link where
  href : String
  text : String
  deriving DecidableEq

def Link.line (l : Link) : String :=
  "<a href=\"" ++ escape l.href ++ "\">" ++ escape l.text ++ "</a><br/>"

def page (title : String) (links : List Link) : String :=
  let head :=
    ["<!DOCTYPE html>", "<html>", "<head>",
      "<meta name=\"pypi:repository-version\" content=\"1.0\">",
      "<title>" ++ escape title ++ "</title>", "</head>", "<body>", "<h1>" ++ escape title ++ "</h1>"]
  Text.joined "\n" (head ++ links.map Link.line ++ ["</body>", "</html>"]) ++ "\n"

def folderLink (name : String) : Link := ⟨Text.percentEncode name ++ "/", name ++ "/"⟩

end Wheelhouse.Html
