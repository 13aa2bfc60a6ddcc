import Wheelhouse.Proofs.Text.Fields
import Wheelhouse.Site.Html

/-!
The anchors of a page as one reads them who knows of tags and quotation marks only. Every `<` is taken for
the beginning of a tag, which ends at the first `>` outside quotation marks; the text of an anchor reaches
to the next `<`. On a page of an index these anchors are its links in their order, with their addresses and
their texts, whatever texts the title and the links have.
-/

set_option autoImplicit false

namespace Wheelhouse.Html

-- The text that an escaped one stands for.
def unescape : List Char → List Char
  | [] => []
  | '&' :: 'a' :: 'm' :: 'p' :: ';' :: rest => '&' :: unescape rest
  | '&' :: 'l' :: 't' :: ';' :: rest => '<' :: unescape rest
  | '&' :: 'g' :: 't' :: ';' :: rest => '>' :: unescape rest
  | '&' :: 'q' :: 'u' :: 'o' :: 't' :: ';' :: rest => '"' :: unescape rest
  | c :: rest => c :: unescape rest

-- The inside of a tag, and what comes after the tag.
def tag (quoted : Bool) : List Char → List Char × List Char
  | [] => ([], [])
  | c :: rest =>
    if c = '>' ∧ quoted = false then ([], rest)
    else
      let after := tag (if c = '"' then !quoted else quoted) rest
      (c :: after.1, after.2)

-- Whether the element of a tag is an anchor.
def isAnchor : List Char → Bool
  | [] => false
  | c :: rest => (c == 'a' || c == 'A') && rest.head?.all fun d => !d.isAlphanum

-- The address in a tag, if it is where links have it.
def address (inside : List Char) : String :=
  match Text.dropBeginning? "a href=\"".toList inside with
  | some value => String.ofList (unescape (value.takeWhile (· != '"')))
  | none => ""

/-- The anchors of a page in their order, each with its address and its text. -/
def anchors : List Char → List (String × String)
  | [] => []
  | c :: rest =>
    if c = '<' ∧ isAnchor (tag false rest).1 = true then
      (address (tag false rest).1, String.ofList (unescape ((tag false rest).2.takeWhile (· != '<')))) ::
        anchors rest
    else anchors rest

def hrefs (cs : List Char) : List String := (anchors cs).map Prod.fst

/-! ### Escaped texts -/

theorem unescape_escapeChar (c : Char) (rest : List Char) : unescape (escapeChar c ++ rest) = c :: unescape rest := by
  by_cases ampersand : c = '&'
  · subst ampersand
    rfl
  by_cases less : c = '<'
  · subst less
    rfl
  by_cases greater : c = '>'
  · subst greater
    rfl
  by_cases quote : c = '"'
  · subst quote
    rfl
  have itself : escapeChar c = [c] := by
    simp only [escapeChar, beq_iff_eq, if_neg ampersand, if_neg less, if_neg greater, if_neg quote]
  rw [itself, List.singleton_append, unescape]
  all_goals exact fun _ same _ => ampersand same

theorem unescape_escape (s : String) : unescape (escape s).toList = s.toList := by
  rw [escape, String.toList_ofList]
  induction s.toList with
  | nil => rfl
  | cons c cs ih => rw [List.flatMap_cons, unescape_escapeChar, ih]

-- Nothing that could end an attribute or begin an element stands in an escaped text.
theorem not_mem_escape {d : Char} (special : d = '<' ∨ d = '"') (s : String) : d ∉ (escape s).toList := by
  rw [escape, String.toList_ofList, List.mem_flatMap]
  rintro ⟨c, _, inside⟩
  unfold escapeChar at inside
  split at inside
  · revert inside
    rcases special with rfl | rfl <;> decide
  split at inside
  · revert inside
    rcases special with rfl | rfl <;> decide
  split at inside
  · revert inside
    rcases special with rfl | rfl <;> decide
  split at inside
  · revert inside
    rcases special with rfl | rfl <;> decide
  rw [List.mem_singleton] at inside
  subst inside
  rcases special with rfl | rfl <;> simp_all

theorem takeWhile_escape {d : Char} (special : d = '<' ∨ d = '"') (s : String) (rest : List Char) :
    ((escape s).toList ++ d :: rest).takeWhile (· != d) = (escape s).toList := by
  rw [List.takeWhile_append_of_pos fun c inside => by
    simp only [bne_iff_ne, ne_eq]
    rintro rfl
    exact not_mem_escape special s inside]
  simp

theorem tag_quoted {cs : List Char} (unquoted : '"' ∉ cs) (rest : List Char) :
    tag true (cs ++ '"' :: '>' :: rest) = (cs ++ ['"'], rest) := by
  induction cs with
  | nil => rfl
  | cons c cs ih =>
    have other : c ≠ '"' := fun same => unquoted (same ▸ List.mem_cons_self)
    have later := ih fun inside => unquoted (List.mem_cons_of_mem _ inside)
    rw [List.cons_append, tag, if_neg (by simp), if_neg other, later]
    rfl

-- The text of an anchor from the name of its tag on.
def Link.opened (l : Link) : List Char :=
  "a href=\"".toList ++ (escape l.href).toList ++ "\">".toList ++ (escape l.text).toList ++ "</a><br/>".toList

theorem Link.line_eq (l : Link) : l.line.toList = '<' :: l.opened := by
  unfold opened
  simp [Link.line, String.toList_append]

/-! ### Reading a page -/

-- A part of a page, and the anchors in it wherever it stands.
def Emits (cs : List Char) (out : List (String × String)) : Prop :=
  ∀ rest, anchors (cs ++ rest) = out ++ anchors rest

namespace Emits

variable {cs cs' : List Char} {out out' : List (String × String)}

theorem append (h : Emits cs out) (h' : Emits cs' out') : Emits (cs ++ cs') (out ++ out') := by
  intro rest
  rw [List.append_assoc, h, h', List.append_assoc]

theorem flatMap {α : Type} {xs : List α} {f : α → List Char} {g : α → List (String × String)}
    (each : ∀ x ∈ xs, Emits (f x) (g x)) : Emits (xs.flatMap f) (xs.flatMap g) := by
  induction xs with
  | nil => exact fun _ => rfl
  | cons x xs ih =>
    exact (each x List.mem_cons_self).append (ih fun y inside => each y (List.mem_cons_of_mem _ inside))

theorem of_not_mem (bare : '<' ∉ cs) : Emits cs [] := by
  intro rest
  induction cs with
  | nil => rfl
  | cons c cs ih =>
    have other : c ≠ '<' := fun same => bare (same ▸ List.mem_cons_self)
    rw [List.cons_append, anchors, if_neg fun both => other both.1]
    exact ih fun inside => bare (List.mem_cons_of_mem _ inside)

-- An element that is no anchor.
theorem tag {c : Char} (other : c ≠ 'a' ∧ c ≠ 'A') (bare : '<' ∉ c :: cs) : Emits ('<' :: c :: cs) [] := by
  intro rest
  have begins : isAnchor (Html.tag false (c :: (cs ++ rest))).1 = false := by
    unfold Html.tag
    split
    · rfl
    · simp [isAnchor, other]
  rw [List.cons_append, List.cons_append, anchors, if_neg fun both => by simp [begins] at both]
  exact of_not_mem bare rest

theorem escape (s : String) : Emits (escape s).toList [] := of_not_mem (not_mem_escape (.inl rfl) s)

theorem opened (l : Link) : Emits l.opened [] := by
  have start : Emits ("a href=\"".toList ++ (Html.escape l.href).toList ++ "\">".toList) [] := by
    refine of_not_mem ?_
    simp only [List.mem_append, not_or]
    exact ⟨⟨by decide, not_mem_escape (.inl rfl) l.href⟩, by decide⟩
  have slash : Emits ('<' :: '/' :: "a>".toList) [] := tag (by decide) (by decide)
  have last : Emits ('<' :: 'b' :: "r/>".toList) [] := tag (by decide) (by decide)
  have close : Emits "</a><br/>".toList [] := slash.append last
  exact (start.append (escape l.text)).append close

theorem titled {before after : String} (s : String) (start : Emits before.toList []) (close : Emits after.toList []) :
    Emits (before ++ Html.escape s ++ after).toList [] := by
  rw [String.toList_append, String.toList_append]
  exact (start.append (escape s)).append close

theorem newLine (h : Emits cs out) : Emits (cs ++ ['\n']) out := by
  have both := h.append (of_not_mem (show '<' ∉ ['\n'] by decide))
  rwa [List.append_nil] at both

theorem line (l : Link) : Emits l.line.toList [(l.href, l.text)] := by
  intro rest
  have shape : l.opened ++ rest = "a href=\"".toList ++ ((Html.escape l.href).toList ++ '"' :: '>' ::
      ((Html.escape l.text).toList ++ '<' :: ("/a><br/>".toList ++ rest))) := by
    unfold Link.opened
    simp
  have inside : Html.tag false (l.opened ++ rest) = ("a href=\"".toList ++ ((Html.escape l.href).toList ++ ['"']),
      (Html.escape l.text).toList ++ '<' :: ("/a><br/>".toList ++ rest)) := by
    have value := tag_quoted (not_mem_escape (.inr rfl) l.href)
      ((Html.escape l.text).toList ++ '<' :: ("/a><br/>".toList ++ rest))
    have start (cs : List Char) : Html.tag false ("a href=\"".toList ++ cs) =
        ("a href=\"".toList ++ (Html.tag true cs).1, (Html.tag true cs).2) := rfl
    rw [shape, start, value]
  have begins : isAnchor ("a href=\"".toList ++ ((Html.escape l.href).toList ++ ['"'])) = true := rfl
  have found : address ("a href=\"".toList ++ ((Html.escape l.href).toList ++ ['"'])) = l.href := by
    have value : Text.dropBeginning? "a href=\"".toList ("a href=\"".toList ++ ((Html.escape l.href).toList ++ ['"'])) =
        some ((Html.escape l.href).toList ++ ['"']) := Text.dropBeginning?_eq_some_iff.2 rfl
    rw [address, value]
    simp only
    rw [takeWhile_escape (.inr rfl), unescape_escape, String.ofList_toList]
  rw [Link.line_eq, List.cons_append, anchors, inside, if_pos ⟨rfl, begins⟩]
  simp only
  rw [found, takeWhile_escape (.inl rfl), unescape_escape, String.ofList_toList, opened]
  rfl

end Emits

theorem anchors_page (title : String) (links : List Link) :
    anchors (page title links).toList = links.map fun l => (l.href, l.text) := by
  have head : ∀ line ∈ ["<!DOCTYPE html>", "<html>", "<head>",
      "<meta name=\"pypi:repository-version\" content=\"1.0\">", "<title>" ++ escape title ++ "</title>",
      "</head>", "<body>", "<h1>" ++ escape title ++ "</h1>"], Emits (line.toList ++ ['\n']) [] := by
    intro line inside
    simp only [List.mem_cons, List.not_mem_nil, or_false] at inside
    rcases inside with rfl | rfl | rfl | rfl | rfl | rfl | rfl | rfl
    · exact .newLine (.tag (by decide) (by decide))
    · exact .newLine (.tag (by decide) (by decide))
    · exact .newLine (.tag (by decide) (by decide))
    · exact .newLine (.tag (by decide) (by decide))
    · exact .newLine (.titled title (.tag (by decide) (by decide)) (.tag (by decide) (by decide)))
    · exact .newLine (.tag (by decide) (by decide))
    · exact .newLine (.tag (by decide) (by decide))
    · exact .newLine (.titled title (.tag (by decide) (by decide)) (.tag (by decide) (by decide)))
  have tail : ∀ line ∈ ["</body>", "</html>"], Emits (line.toList ++ ['\n']) [] := by
    intro line inside
    simp only [List.mem_cons, List.not_mem_nil, or_false] at inside
    rcases inside with rfl | rfl
    · exact .newLine (.tag (by decide) (by decide))
    · exact .newLine (.tag (by decide) (by decide))
  have each : ∀ l ∈ links, Emits (l.line.toList ++ ['\n']) [(l.href, l.text)] := fun l _ => (Emits.line l).newLine
  have found := ((Emits.flatMap head).append (Emits.flatMap each)).append (Emits.flatMap tail) []
  rw [List.append_nil] at found
  unfold page
  simp only
  rw [String.toList_append, Text.joined, String.toList_ofList]
  change anchors (Text.join ['\n'] _ ++ ['\n']) = _
  rw [Text.join_append_sep (by simp), List.flatMap_map, List.flatMap_append, List.flatMap_append, List.flatMap_map, found,
    List.map_eq_flatMap]
  simp [anchors]

theorem hrefs_page (title : String) (links : List Link) :
    hrefs (page title links).toList = links.map Link.href := by
  rw [hrefs, anchors_page, List.map_map]
  rfl

end Wheelhouse.Html
