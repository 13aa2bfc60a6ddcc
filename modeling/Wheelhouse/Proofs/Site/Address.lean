import Mathlib.Data.List.Basic
import Wheelhouse.Proofs.Disk.Path
import Wheelhouse.Proofs.Text.Percent
import Wheelhouse.Site.Index

/-!
Where the addresses on the pages of an index lead. The address of an archive leads two folders up from
the page of its package, and the address of a folder leads to the folder beside the page.
-/

set_option autoImplicit false

namespace Wheelhouse

namespace Html

def withoutFragment (address : String) : String := String.ofList (address.toList.takeWhile (· != '#'))

/-- The key that an address leads to from the page at a key. A slash at the end stays there. -/
def target? (page address : String) : Option String :=
  (Text.percentDecode? (withoutFragment address)).map fun text =>
    Text.joined "/" (Path.join (Path.segments page).dropLast text)

theorem withoutFragment_eq {address : String} (whole : '#' ∉ address.toList) : withoutFragment address = address := by
  have kept : address.toList.takeWhile (· != '#') = address.toList := by
    rw [← List.append_nil address.toList, List.takeWhile_append_of_pos, List.takeWhile_nil]
    intro c inside
    rw [bne_iff_ne]
    rintro rfl
    exact whole inside
  rw [withoutFragment, kept, String.ofList_toList]

theorem withoutFragment_append {address fragment : String} (whole : '#' ∉ address.toList) :
    withoutFragment (address ++ "#" ++ fragment) = address := by
  rw [withoutFragment, String.toList_append, String.toList_append, List.append_assoc,
    List.takeWhile_append_of_pos]
  · simp
  · intro c inside
    rw [bne_iff_ne]
    rintro rfl
    exact whole inside

end Html

namespace Path

section

variable {base : Path} {name : String}

-- The folder of a page, from the key of the page.
theorem dropLast_segments_joined {page : String} (unbroken : ∀ n ∈ base ++ [page], '/' ∉ n.toList) :
    (segments (Text.joined "/" (base ++ [page]))).dropLast = base := by
  rw [segments_joined (by simp) unbroken, List.dropLast_concat]

theorem isSuffixOf_of_not_mem {c : Char} {ds : List Char} (filled : ds ≠ []) (missing : c ∉ ds) (cs : List Char) :
    [c].isSuffixOf (cs ++ ds) = false := by
  rw [← Bool.not_eq_true, List.isSuffixOf_iff_suffix]
  rintro ⟨init, same⟩
  have last := congrArg List.getLast? same
  rw [List.getLast?_concat, List.getLast?_append_of_ne_nil _ filled] at last
  exact missing (List.mem_of_getLast? last.symm)

theorem follow_up (p : Path) (name : String) : follow (p ++ [name]) ".." = p := by
  rw [follow, if_neg (by decide), if_pos rfl, List.dropLast_concat]

theorem toList_up (name : String) :
    (Text.joined "/" ["..", "..", name]).toList = ['.', '.', '/', '.', '.', '/'] ++ name.toList := by
  rw [Text.joined, String.toList_ofList]
  rfl

theorem toList_folder (name : String) : (Text.joined "/" [name, ""]).toList = name.toList ++ ['/'] := by
  rw [Text.joined, String.toList_ofList]
  exact List.append_nil _

theorem join_up (plain : IsPlain [name]) (a b : String) :
    join (base ++ [a, b]) (Text.joined "/" ["..", "..", name]) = base ++ [name] := by
  obtain ⟨filled, _, _, unbroken⟩ := plain name (List.mem_singleton.2 rfl)
  have parts : segments (Text.joined "/" ["..", "..", name]) = ["..", "..", name] := by
    refine segments_joined (by simp) fun n inside => ?_
    simp only [List.mem_cons, List.not_mem_nil, or_false] at inside
    rcases inside with rfl | rfl | rfl
    · decide
    · decide
    · exact unbroken
  have resolved : resolve (base ++ [a, b]) (Text.joined "/" ["..", "..", name]) = base ++ [name] := by
    have here : descend base [name] = base ++ [name] := descend_of_isPlain plain base
    rw [resolve, parts, toList_up, if_neg (by simp), List.append_cons base a [b]]
    change descend (follow (follow (base ++ [a] ++ [b]) "..") "..") [name] = _
    rw [follow_up, follow_up, here]
  have unmarked : "/".toList.isSuffixOf (Text.joined "/" ["..", "..", name]).toList = false := by
    rw [toList_up]
    exact isSuffixOf_of_not_mem (by simpa using filled) unbroken _
  rw [join, resolved, unmarked]
  rfl

theorem join_folder (plain : IsPlain [name]) : join base (Text.joined "/" [name, ""]) = base ++ [name, ""] := by
  obtain ⟨filled, _, _, unbroken⟩ := plain name (List.mem_singleton.2 rfl)
  have parts : segments (Text.joined "/" [name, ""]) = [name, ""] := by
    refine segments_joined (by simp) fun n inside => ?_
    simp only [List.mem_cons, List.not_mem_nil, or_false] at inside
    rcases inside with rfl | rfl
    · exact unbroken
    · decide
  have relative : "/".toList.isPrefixOf (name.toList ++ ['/']) = false := by
    obtain ⟨c, cs, same⟩ := List.exists_cons_of_ne_nil (show name.toList ≠ [] by simpa using filled)
    rw [same] at unbroken ⊢
    have other : '/' ≠ c := fun h => unbroken (h ▸ List.mem_cons_self)
    change ('/' == c && [].isPrefixOf (cs ++ ['/'])) = false
    rw [beq_false_of_ne other, Bool.false_and]
  have resolved : resolve base (Text.joined "/" [name, ""]) = base ++ [name] := by
    have here : descend base [name] = base ++ [name] := descend_of_isPlain plain base
    rw [resolve, parts, toList_folder, relative, if_neg (by decide)]
    exact here
  have marked : "/".toList.isSuffixOf (Text.joined "/" [name, ""]).toList = true := by
    rw [toList_folder, List.isSuffixOf_iff_suffix]
    exact ⟨name.toList, rfl⟩
  rw [join, resolved, marked]
  simp

end

end Path

namespace Text

theorem join_concat_append (sep f : List Char) (fs : List (List Char)) : join sep (fs ++ [[]]) ++ f = join sep (fs ++ [f]) := by
  induction fs with
  | nil => rfl
  | cons g fs ih =>
    cases fs with
    | nil => simp [join]
    | cons h fs =>
      rw [List.cons_append, List.cons_append, join_cons_cons, List.append_assoc, ← List.cons_append, ih]
      rfl

-- A key that ends in a slash, completed by a name.
theorem joined_concat_append (names : List String) (name : String) :
    joined "/" (names ++ [""]) ++ name = joined "/" (names ++ [name]) := by
  have text (last : String) :
      (joined "/" (names ++ [last])).toList = join ['/'] (names.map String.toList ++ [last.toList]) := by
    rw [joined, String.toList_ofList, List.map_append]
    rfl
  apply String.toList_inj.1
  rw [String.toList_append, text, text]
  exact join_concat_append _ _ _

end Text

namespace Html

variable {base : Path} {variant package name page : String}

-- An address that leads two folders up leads from the page of a package to beside the folder of its variant.
theorem target?_above (unbroken : ∀ n ∈ base ++ [variant, package, page], '/' ∉ n.toList)
    (plain : Path.IsPlain [name]) {fragment : String} (mark : fragment = "" ∨ ∃ rest, fragment = "#" ++ rest) :
    target? (Text.joined "/" (base ++ [variant, package, page])) ("../../" ++ Text.percentEncode name ++ fragment) =
      some (Text.joined "/" (base ++ [name])) := by
  have clean : '#' ∉ ("../../" ++ Text.percentEncode name).toList := by
    rw [String.toList_append, List.mem_append, not_or]
    exact ⟨by decide, Text.not_mem_percentEncode (by decide) (by decide) name⟩
  have cut : withoutFragment ("../../" ++ Text.percentEncode name ++ fragment) = "../../" ++ Text.percentEncode name := by
    rcases mark with rfl | ⟨rest, rfl⟩
    · rw [String.append_empty, withoutFragment_eq clean]
    · rw [← String.append_assoc, withoutFragment_append clean]
  have decoded : Text.percentDecode? ("../../" ++ Text.percentEncode name) =
      some (Text.joined "/" ["..", "..", name]) := by
    have whole := Text.percentDecode?_percentEncode "../../" name "" (by decide) (by decide)
    have same : "../../" ++ name = Text.joined "/" ["..", "..", name] := by
      apply String.toList_inj.1
      rw [String.toList_append, Path.toList_up]
      rfl
    rwa [String.append_empty, String.append_empty, same] at whole
  have folder : (Path.segments (Text.joined "/" (base ++ [variant, package, page]))).dropLast =
      base ++ [variant, package] := by
    have split : base ++ [variant, package, page] = (base ++ [variant, package]) ++ [page] := by simp
    rw [split] at unbroken ⊢
    exact Path.dropLast_segments_joined unbroken
  rw [target?, cut, decoded, Option.map_some, folder, Path.join_up plain]

-- An address that ends in a slash leads to a folder beside the page.
theorem target?_folder (unbroken : ∀ n ∈ base ++ [page], '/' ∉ n.toList) (plain : Path.IsPlain [name]) :
    target? (Text.joined "/" (base ++ [page])) (Text.percentEncode name ++ "/") =
      some (Text.joined "/" (base ++ [name, ""])) := by
  have clean : '#' ∉ (Text.percentEncode name ++ "/").toList := by
    rw [String.toList_append, List.mem_append, not_or]
    exact ⟨Text.not_mem_percentEncode (by decide) (by decide) name, by decide⟩
  have decoded : Text.percentDecode? (Text.percentEncode name ++ "/") = some (Text.joined "/" [name, ""]) := by
    have whole := Text.percentDecode?_percentEncode "" name "/" (by decide) (by decide)
    have same : name ++ "/" = Text.joined "/" [name, ""] := by
      apply String.toList_inj.1
      rw [String.toList_append, Path.toList_folder]
      rfl
    rwa [String.empty_append, String.empty_append, same] at whole
  rw [target?, withoutFragment_eq clean, decoded, Option.map_some, Path.dropLast_segments_joined unbroken,
    Path.join_folder plain]

end Html

end Wheelhouse
