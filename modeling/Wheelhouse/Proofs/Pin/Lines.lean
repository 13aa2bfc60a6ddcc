import Mathlib.Data.List.Basic
import Wheelhouse.Pin.RequirementFile
import Wheelhouse.Proofs.Text.Fields

/-!
The lines of a text. Lines that are put together to a text are the lines of that text, with and without a
line end at its end.
-/

set_option autoImplicit false

namespace Wheelhouse

namespace Text

theorem subset_join {sep f : List Char} {fs : List (List Char)} (inside : f ∈ fs) : f ⊆ join sep fs := by
  induction fs with
  | nil => cases inside
  | cons g fs ih =>
    by_cases filled : fs = []
    · subst filled
      rw [List.mem_singleton.1 inside]
      exact fun _ member => member
    · rw [join_cons_of_ne_nil filled]
      rcases List.mem_cons.1 inside with rfl | inside
      · simp
      · exact List.Subset.trans (ih inside) (List.subset_append_right _ _)

theorem filter_join {p : Char → Bool} {sep : List Char} (kept : sep.filter p = sep) (fs : List (List Char)) :
    (join sep fs).filter p = join sep (fs.map (List.filter p)) := by
  induction fs with
  | nil => rfl
  | cons f fs ih =>
    by_cases filled : fs = []
    · rw [filled]
      rfl
    · rw [join_cons_of_ne_nil filled, List.map_cons, join_cons_of_ne_nil (by simpa using filled), List.filter_append,
        List.filter_append, kept, ih]

theorem fields_joined {lines : List String} (filled : lines ≠ []) (unbroken : ∀ line ∈ lines, '\n' ∉ line.toList) :
    fields (· == '\n') (joined "\n" lines) = lines :=
  fields_eq_iff.2 ⟨filled, unbroken, rfl⟩

theorem joined_fields (text : String) : joined "\n" (fields (· == '\n') text) = text := by
  have whole : text = joined (String.singleton '\n') (fields (· == '\n') text) := (fields_eq_iff.1 rfl).2.2
  exact whole.symm

theorem fields_ne_nil (text : String) : fields (· == '\n') text ≠ [] := (fields_eq_iff.1 rfl).1

theorem newLine_not_mem_of_mem_fields {text line : String} (inside : line ∈ fields (· == '\n') text) :
    '\n' ∉ line.toList :=
  (fields_eq_iff.1 rfl).2.1 line inside

theorem mem_of_mem_fields {text line : String} {c : Char} (inside : line ∈ fields (· == '\n') text)
    (member : c ∈ line.toList) : c ∈ text.toList := by
  rw [← joined_fields text, joined, String.toList_ofList]
  exact subset_join (List.mem_map_of_mem inside) member

theorem joined_concat {lines : List String} (filled : lines ≠ []) (line : String) :
    joined "\n" (lines ++ [line]) = joined "\n" lines ++ "\n" ++ line := by
  rw [joined_append _ filled (List.cons_ne_nil _ _)]
  simp [joined, join]

end Text

namespace RequirementFile

variable {lines : List String} {text : String}

theorem endsLine_append_newLine (text : String) : endsLine (text ++ "\n") = true := by
  simp [endsLine]

theorem linesOf_textOf_ended (filled : lines ≠ []) (unbroken : ∀ line ∈ lines, '\n' ∉ line.toList) :
    linesOf (textOf lines true) = lines ∧ endsLine (textOf lines true) = true := by
  have text : textOf lines true = Text.joined "\n" (lines ++ [""]) := by
    simp [textOf, Text.joined_concat filled]
  have some : textOf lines true ≠ "" := by
    simp [textOf]
  have ended : endsLine (textOf lines true) = true := endsLine_append_newLine _
  have fields : Text.fields (· == '\n') (textOf lines true) = lines ++ [""] := by
    rw [text]
    apply Text.fields_joined (by simp)
    intro line inside
    rcases List.mem_append.1 inside with inside | last
    · exact unbroken line inside
    · simp [List.mem_singleton.1 last]
  exact ⟨by simp [linesOf, some, ended, fields], ended⟩

theorem endsLine_joined (init : List String) {last : String} (some : last ≠ "") (unbroken : '\n' ∉ last.toList) :
    endsLine (Text.joined "\n" (init ++ [last])) = false := by
  have tail : (Text.joined "\n" (init ++ [last])).toList.getLast? = last.toList.getLast? := by
    cases init with
    | nil => simp [Text.joined, Text.join]
    | cons line init =>
      rw [Text.joined_concat (by simp), String.toList_append]
      exact List.getLast?_append_of_ne_nil _ (by simpa using some)
  rw [endsLine, tail, decide_eq_false_iff_not]
  exact fun ended => unbroken (List.mem_of_getLast? ended)

theorem linesOf_textOf_open {init : List String} {last : String} (some : last ≠ "")
    (unbroken : ∀ line ∈ init ++ [last], '\n' ∉ line.toList) :
    linesOf (textOf (init ++ [last]) false) = init ++ [last] ∧ endsLine (textOf (init ++ [last]) false) = false := by
  have text : textOf (init ++ [last]) false = Text.joined "\n" (init ++ [last]) := by simp [textOf]
  have ended := endsLine_joined init some (unbroken last (by simp))
  have fields := Text.fields_joined (by simp) unbroken
  have filled : Text.joined "\n" (init ++ [last]) ≠ "" := by
    intro empty
    rw [empty, show Text.fields (· == '\n') "" = [""] from rfl] at fields
    cases init with
    | nil => simp_all
    | cons _ _ => simp at fields
  rw [text]
  exact ⟨by simp [linesOf, filled, ended, fields], ended⟩

theorem mem_fields_of_mem_linesOf {line : String} (inside : line ∈ linesOf text) :
    line ∈ Text.fields (· == '\n') text := by
  unfold linesOf at inside
  split at inside
  · cases inside
  · simp only at inside
    split at inside
    · exact List.dropLast_subset _ inside
    · exact inside

theorem newLine_not_mem_of_mem_linesOf {line : String} (inside : line ∈ linesOf text) : '\n' ∉ line.toList :=
  Text.newLine_not_mem_of_mem_fields (mem_fields_of_mem_linesOf inside)

-- A text that does not end in a line end has something in its last line.
theorem linesOf_open (some : text ≠ "") (open_ : endsLine text = false) :
    ∃ init last, linesOf text = init ++ [last] ∧ last ≠ "" := by
  obtain ⟨init, last, fields⟩ := List.eq_nil_or_concat (Text.fields (· == '\n') text) |>.resolve_left (Text.fields_ne_nil text)
  rw [List.concat_eq_append] at fields
  refine ⟨init, last, by simp [linesOf, some, open_, fields], ?_⟩
  rintro rfl
  have whole := Text.joined_fields text
  rw [fields] at whole
  cases init with
  | nil => exact some (whole.symm.trans rfl)
  | cons line init =>
    rw [Text.joined_concat (by simp), String.append_empty] at whole
    rw [← whole, endsLine_append_newLine] at open_
    cases open_

end RequirementFile

end Wheelhouse
