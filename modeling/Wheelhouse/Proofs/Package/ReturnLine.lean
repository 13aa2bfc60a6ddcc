import Wheelhouse.Proofs.Package.RequirementLine

/-!
Requirement lines that end in a carriage return. The carriage return belongs to the line and keeps a comment in it
from being one, so that the comment is read as part of what is asked for.
-/

set_option autoImplicit false

namespace Wheelhouse

namespace Text

theorem mem_dropBlanks {cs : List Char} {c : Char} (inside : c ∈ cs) (visible : isBlank c = false) :
    c ∈ cs.dropWhile isBlank := by
  rw [← List.takeWhile_append_dropWhile (p := isBlank) (l := cs), List.mem_append] at inside
  refine inside.resolve_left fun before => ?_
  rw [List.mem_takeWhile_imp before] at visible
  cases visible

theorem mem_trim {cs : List Char} {c : Char} (inside : c ∈ cs) (visible : isBlank c = false) : c ∈ trim cs := by
  obtain ⟨after, pad, whole⟩ := exists_trimEnd_append (cs.dropWhile isBlank)
  have kept := mem_dropBlanks inside visible
  rw [whole, List.mem_append] at kept
  refine kept.resolve_right fun last => ?_
  rw [pad c last] at visible
  cases visible

theorem mem_cut {sep c : Char} {cs : List Char} (inside : c ∈ cs) (other : c ≠ sep) :
    c ∈ (cut sep cs).1 ∨ ∃ after, (cut sep cs).2 = some after ∧ c ∈ after := by
  by_cases there : sep ∈ cs
  · obtain ⟨before, after, rfl, missing⟩ := List.eq_append_cons_of_mem there
    rw [cut_append missing]
    exact (List.mem_append.1 inside).imp id fun later => ⟨after, rfl, (List.mem_cons.1 later).resolve_left other⟩
  · rw [cut_of_not_mem there]
    exact .inl inside

end Text

namespace Requirement

section

variable {r : Requirement} {cs name rest : List Char} {line : String}

-- No comment goes up to the end of a text that ends in a carriage return.
theorem stripComment_return (cs : List Char) : stripComment (cs ++ ['\r']) = cs ++ ['\r'] := by
  have unmarked (before comment : List Char) (split : cs ++ ['\r'] = before ++ comment) : ¬IsComment comment := by
    rintro ⟨text, rfl, unbroken⟩
    have last : ('#' :: text).getLast? = some '\r' := by
      have ends := congrArg List.getLast? split
      rwa [List.getLast?_concat, List.getLast?_append_of_ne_nil _ (by simp), eq_comm] at ends
    rcases List.mem_cons.1 (List.mem_of_getLast? last) with sign | inside
    · cases sign
    · exact absurd (unbroken _ inside) (by decide)
  refine stripComment_eq_iff.2 ⟨⟨[], by simp, .inl rfl⟩, ?_⟩
  rintro before after split (⟨_, noted⟩ | ⟨b, comment, rfl, _, noted⟩)
  · exact absurd noted (unmarked _ _ split)
  · exact absurd noted (unmarked (before ++ [b]) _ (by simpa using split))

-- A carriage return at its end makes a line be read with its comment.
theorem parse?_return (line : String) : parse? (line ++ "\r") = ofTrimmed (Text.trim line.toList) := by
  have pad : Text.IsPad ['\r'] := by simp [Text.IsPad, Text.isBlank]
  have trimmed := Text.trim_pad Text.isPad_nil pad line.toList
  have whole : (line ++ "\r").toList = line.toList ++ ['\r'] := by simp
  rw [parse?, whole, stripComment_return]
  exact congrArg ofTrimmed trimmed

def hasComment (line : String) : Bool := stripComment line.toList != line.toList

theorem parse?_return_of_plain (plain : hasComment line = false) : parse? (line ++ "\r") = parse? line := by
  rw [hasComment, bne_eq_false_iff_eq] at plain
  rw [parse?_return, parse?, plain]

theorem spanName_whole (cs : List Char) :
    cs = (spanName cs).1 ++ (spanName cs).2 ∧ ∀ c ∈ (spanName cs).1, PackageName.isNameChar c = true := by
  let run := cs.takeWhile PackageName.isNameChar
  have before : (spanName cs).1 <+: run := by
    have after := List.reverse_prefix.2 (List.dropWhile_suffix (fun c => !c.isAlphanum) (l := run.reverse))
    rwa [List.reverse_reverse] at after
  exact ⟨(List.prefix_iff_eq_append.1 (before.trans (List.takeWhile_prefix _))).symm,
    fun c inside => List.mem_takeWhile_imp (before.subset inside)⟩

-- Whatever can be seen of a text without extras and marker is in its name or its specifier.
theorem mem_specifier (read : ofTrimmed cs = some r) (bare : r.extras = none) (unmarked : r.marker = none) {c : Char}
    (inside : c ∈ cs) (visible : Text.isBlank c = false) (other : PackageName.isNameChar c = false) (apart : c ≠ ';') :
    c ∈ r.specifier.toList := by
  rw [ofTrimmed_eq] at read
  split at read
  · obtain ⟨whole, letters⟩ := spanName_whole cs
    have later : c ∈ (spanName cs).2.dropWhile Text.isBlank := by
      refine Text.mem_dropBlanks ?_ visible
      rw [whole, List.mem_append] at inside
      refine inside.resolve_left fun named => ?_
      rw [letters c named] at other
      cases other
    have apart' : splitExtras ((spanName cs).2.dropWhile Text.isBlank) = (none, (spanName cs).2.dropWhile Text.isBlank) := by
      unfold ofRest at read
      cases extras : readExtras ((spanName cs).2.dropWhile Text.isBlank) with
      | none => simp [splitExtras, extras]
      | some found =>
        simp only [splitExtras, extras] at read
        split at read <;> cases read
        cases bare
    rw [ofRest, apart'] at read
    simp only at read
    split at read <;> cases read
    rcases Text.mem_cut later apart with before | ⟨marker, found, after⟩
    · simpa [Text.removeBlanks, visible] using before
    · have filled := Text.trim_ne_nil ⟨c, after, visible⟩
      simp [found, nonEmpty, filled] at unmarked
  · cases read

theorem mem_of_mem_splitExtras {c : Char} (inside : c ∈ (splitExtras cs).2) : c ∈ cs := by
  unfold splitExtras at inside
  split at inside
  · rename_i extras after read
    have later := (List.dropWhile_suffix _).subset inside
    unfold readExtras at read
    split at read
    · rename_i rest
      split at read <;> cases read
      rename_i close
      refine List.mem_cons_of_mem _ ((List.dropWhile_suffix (· != ']')).subset ?_)
      rw [close]
      exact List.mem_cons_of_mem _ later
    · cases read
  · exact inside

-- On one line it depends on the start of a text which package it asks for.
theorem ofTrimmed_normalizedName (unbroken : ∀ c ∈ cs, Text.isLineEnd c = false) :
    (ofTrimmed cs).map normalizedName =
      if startsWithName cs then some (PackageName.normalize (String.ofList (spanName cs).1)) else none := by
  have ended : (splitExtras ((spanName cs).2.dropWhile Text.isBlank)).2.any Text.isLineEnd = false := by
    rw [List.any_eq_false]
    intro c inside
    have later := (List.dropWhile_suffix _).subset (mem_of_mem_splitExtras inside)
    have member : c ∈ cs := by
      rw [(spanName_whole cs).1]
      exact List.mem_append_right _ later
    simp [unbroken c member]
  rw [ofTrimmed_eq]
  split
  · rw [ofRest]
    simp only [ended]
    rfl
  · rfl

-- What stands before a comment is also at the start of the whole line.
theorem trim_of_hasComment (commented : hasComment line = true) :
    Text.trim (stripComment line.toList) = [] ∧ (∃ rest, Text.trim line.toList = '#' :: rest) ∨
      Text.trim (stripComment line.toList) ≠ [] ∧ ∃ b rest, Text.isBlank b = true ∧
        Text.trim line.toList = Text.trim (stripComment line.toList) ++ b :: rest := by
  have left := uncommented_stripComment line.toList
  have other : stripComment line.toList ≠ line.toList := by simpa [hasComment] using commented
  generalize stripComment line.toList = text at left other
  generalize line.toList = cs at left other
  obtain ⟨comment, rfl, rfl | ⟨rfl, marked, rfl, _⟩ | ⟨b, _, rfl, blank, marked, rfl, _⟩⟩ := left.cut
  · exact absurd (by simp) other
  · exact .inl ⟨rfl, _, Text.trim_cons (by decide) marked⟩
  · by_cases padded : Text.IsPad text
    · have pad : Text.IsPad (text ++ [b]) := padded.append (by simpa [Text.IsPad] using blank)
      have rest := Text.trim_pad pad Text.isPad_nil ('#' :: marked)
      refine .inl ⟨by rw [Text.trim, List.dropWhile_eq_nil_iff.2 padded]; rfl, Text.trimEnd marked, ?_⟩
      simpa [Text.trim_cons (show Text.isBlank '#' = false by decide)] using rest
    · obtain ⟨after, pad, split⟩ := Text.exists_trimEnd_append (text.dropWhile Text.isBlank)
      have filled : Text.trim text ≠ [] := Text.trim_ne_nil (by simpa [Text.IsPad] using padded)
      have empty : text.dropWhile Text.isBlank ≠ [] := mt List.dropWhile_eq_nil_iff.1 padded
      have trimmed : Text.trim (text ++ b :: '#' :: marked) = Text.trim text ++ (after ++ b :: '#' :: Text.trimEnd marked) := by
        rw [Text.trim, List.dropWhile_append, if_neg (by simpa using empty), List.append_cons,
          Text.trimEnd_append_cons (by decide), Text.trim, ← List.append_assoc, ← split]
        simp
      refine .inr ⟨filled, ?_⟩
      cases after with
      | nil => exact ⟨b, _, blank, trimmed⟩
      | cons d after => exact ⟨d, _, pad d (by simp), trimmed⟩

-- A line asks for the same package with its comment as without it.
theorem normalizedName_return (unbroken : ∀ c ∈ line.toList, Text.isLineEnd c = false) :
    (parse? (line ++ "\r")).map normalizedName = (parse? line).map normalizedName := by
  by_cases commented : hasComment line = true
  · have inside {c : Char} {cs ds : List Char} (member : c ∈ Text.trim ds) (sub : ds ⊆ cs) : c ∈ cs :=
      sub ((List.dropWhile_suffix _).subset ((Text.trimEnd_prefix _).subset member))
    have start : stripComment line.toList <+: line.toList := by
      obtain ⟨comment, whole, _⟩ := (uncommented_stripComment line.toList).cut
      exact ⟨comment, whole.symm⟩
    rw [parse?_return, parse?, ofTrimmed_normalizedName fun c member => unbroken c (inside member fun _ => id),
      ofTrimmed_normalizedName fun c member => unbroken c (inside member start.subset)]
    rcases trim_of_hasComment commented with ⟨empty, rest, sign⟩ | ⟨filled, b, rest, blank, longer⟩
    · rw [empty, sign]
      simp [startsWithName, show ('#' : Char).isAlphanum = false by decide]
    · rw [longer, startsWithName_append (.inl blank) filled, spanName_append (.inl blank)]
  · rw [parse?_return_of_plain (by simpa using commented)]

theorem number_sign_mem_of_hasComment (commented : hasComment line = true) : '#' ∈ line.toList := by
  have left := uncommented_stripComment line.toList
  have other : stripComment line.toList ≠ line.toList := by simpa [hasComment] using commented
  obtain ⟨comment, whole, empty | ⟨_, text, rfl, _⟩ | ⟨b, _, rfl, _, text, rfl, _⟩⟩ := left.cut
  · exact absurd (by rw [empty, List.append_nil] at whole; exact whole.symm) other
  all_goals
    rw [whole]
    simp

end

end Requirement

end Wheelhouse
