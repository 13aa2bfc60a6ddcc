import Mathlib.Data.List.Forall2
import Wheelhouse.Proofs.Package.ReturnLine
import Wheelhouse.Proofs.Pin.RequirementFile

/-!
Pinning in requirement files whose lines end in a carriage return and a line feed. A line with a comment never
pins a version there; where the first line that pins it has none, all is as in the file with bare line feeds.
-/

set_option autoImplicit false

namespace Wheelhouse

namespace RequirementFile

open Requirement (hasComment)

/-- A text with each line end as a carriage return and a line feed. -/
def withReturns (text : String) : String :=
  String.ofList (text.toList.flatMap fun c => if c = '\n' then ['\r', '\n'] else [c])

def withoutReturns (text : String) : String := String.ofList (text.toList.filter (· != '\r'))

/-- The lines before a line feed. -/
def endedLines (text : String) : List String := (Text.fields (· == '\n') text).dropLast

/-- What stands after the last line feed. -/
def openLine (text : String) : String := (Text.fields (· == '\n') text).getLastD ""

section

variable {c : Candidate} {cs all : List Candidate} {line line' text : String} {lines lines' : List String}

theorem pins_return (written : IsWritten c) (line : String) :
    pins c (line ++ "\r") = (pins c line && !hasComment line) := by
  by_cases commented : hasComment line = true
  · have visible : '#' ∈ Text.trim line.toList :=
      Text.mem_trim (Requirement.number_sign_mem_of_hasComment commented) (by decide)
    rw [commented, Bool.not_true, Bool.and_false, pins, Requirement.parse?_return]
    cases read : Requirement.ofTrimmed (Text.trim line.toList) with
    | none => rfl
    | some r =>
      rw [Option.any_some, Bool.eq_false_iff]
      intro exact
      simp only [Bool.and_eq_true, decide_eq_true_eq, Option.isNone_iff_eq_none] at exact
      obtain ⟨⟨⟨_, version⟩, bare⟩, unmarked⟩ := exact
      have inside := Requirement.mem_specifier read bare unmarked visible (by decide) (by decide) (by decide)
      rw [version] at inside
      have member : '#' ∈ (Requirement.pin c.name c.version).toList := by
        rw [Requirement.pin, String.append_assoc, String.toList_append]
        exact List.mem_append_right _ inside
      exact (Requirement.isPinChar_of_mem_pin written.1 written.2 member).ne.2.1 rfl
  · have plain : hasComment line = false := by simpa using commented
    rw [pins, Requirement.parse?_return_of_plain plain, plain, Bool.not_false, Bool.and_true]
    rfl

theorem asks_return (unbroken : ∀ ch ∈ line.toList, Text.isLineEnd ch = false) : asks c (line ++ "\r") = asks c line := by
  have same := congrArg (Option.any fun name => decide (name = c.normalizedName))
    (Requirement.normalizedName_return unbroken)
  simpa [asks, Option.any_map, Function.comp_def] using same

theorem fields_eq (text : String) : Text.fields (· == '\n') text = endedLines text ++ [openLine text] := by
  have filled := Text.fields_ne_nil text
  rw [endedLines, openLine, List.getLastD_eq_getLast?, List.getLast?_eq_some_getLast filled]
  exact (List.dropLast_concat_getLast filled).symm

theorem flatMap_return {f : List Char} (unbroken : '\n' ∉ f) :
    (f.flatMap fun c => if c = '\n' then ['\r', '\n'] else [c]) = f := by
  induction f with
  | nil => rfl
  | cons c f ih =>
    rw [List.mem_cons, not_or] at unbroken
    rw [List.flatMap_cons, if_neg (Ne.symm unbroken.1), ih unbroken.2]
    rfl

theorem withReturns_joined (unbroken : ∀ l ∈ lines ++ [line], '\n' ∉ l.toList) :
    withReturns (Text.joined "\n" (lines ++ [line])) = Text.joined "\n" (lines.map (· ++ "\r") ++ [line]) := by
  apply String.toList_inj.1
  simp only [withReturns, Text.joined, String.toList_ofList]
  induction lines with
  | nil => exact flatMap_return (unbroken line (by simp))
  | cons l lines ih =>
    have rest := ih fun l inside => unbroken l (List.mem_cons_of_mem _ inside)
    rw [List.cons_append, List.map_cons, Text.join_cons_of_ne_nil (by simp), List.flatMap_append, List.flatMap_append,
      rest, flatMap_return (unbroken l (by simp)), List.map_cons, List.cons_append, List.map_cons,
      Text.join_cons_of_ne_nil (by simp)]
    simp

theorem joined_lines (text : String) : Text.joined "\n" (endedLines text ++ [openLine text]) = text := by
  rw [← fields_eq, Text.joined_fields]

theorem fields_withReturns (text : String) :
    Text.fields (· == '\n') (withReturns text) = (endedLines text).map (· ++ "\r") ++ [openLine text] := by
  have unbroken : ∀ l ∈ endedLines text ++ [openLine text], '\n' ∉ l.toList := by
    rw [← fields_eq]
    exact fun l => Text.newLine_not_mem_of_mem_fields
  have whole := withReturns_joined unbroken
  rw [joined_lines] at whole
  rw [whole]
  refine Text.fields_joined (by simp) fun l inside => ?_
  rcases List.mem_append.1 inside with ended | last
  · obtain ⟨l, member, rfl⟩ := List.mem_map.1 ended
    simpa using unbroken l (List.mem_append_left _ member)
  · exact unbroken l (List.mem_append_right _ last)

theorem endedLines_withReturns (text : String) : endedLines (withReturns text) = (endedLines text).map (· ++ "\r") := by
  rw [endedLines, fields_withReturns, List.dropLast_concat]

theorem openLine_withReturns (text : String) : openLine (withReturns text) = openLine text := by
  rw [openLine, fields_withReturns, List.getLastD_concat]

-- A text goes on after its last line feed just if something stands there.
theorem linesOf_eq (text : String) :
    linesOf text = endedLines text ++ (if openLine text = "" then [] else [openLine text]) ∧
      (text = "" || endsLine text) = decide (openLine text = "") := by
  have whole := joined_lines text
  have fields := fields_eq text
  have final : openLine text ∈ Text.fields (· == '\n') text := by
    rw [fields]
    simp
  have unbroken := Text.newLine_not_mem_of_mem_fields final
  unfold linesOf
  generalize endedLines text = ended at whole fields
  generalize openLine text = last at whole fields unbroken
  by_cases empty : last = ""
  · subst empty
    by_cases none : ended = []
    · have bare : text = "" := by rw [← whole, none]; rfl
      simp [bare, none]
    · rw [Text.joined_concat none, String.append_empty] at whole
      have ends : endsLine text = true := by rw [← whole, endsLine_append_newLine]
      have some : text ≠ "" := by
        rintro rfl
        cases ends
      simp [some, ends, fields]
  · have open_ : endsLine text = false := by rw [← whole, endsLine_joined ended empty unbroken]
    have some : text ≠ "" := by
      rintro rfl
      rw [show Text.fields (· == '\n') "" = [""] from rfl] at fields
      have final := congrArg List.getLast? fields
      rw [List.getLast?_concat] at final
      exact empty (Option.some.inj final).symm
    simp [some, open_, empty, fields]

/-- The line itself or the line with a carriage return at its end. -/
def Shows (line line' : String) : Prop := line' = line ∨ line' = line ++ "\r"

/-- A line as it is without and with a carriage return that asks for the same candidates. -/
def Alike (all : List Candidate) (line line' : String) : Prop :=
  Shows line line' ∧ ∀ c ∈ all, asks c line' = asks c line

theorem Alike.mark (alike : Alike all line line') : Alike all (mark ++ line) (mark ++ line') := by
  refine ⟨?_, fun c _ => by rw [asks_mark, asks_mark]⟩
  rcases alike.1 with rfl | rfl
  · exact .inl rfl
  · exact .inr (String.append_assoc ..).symm

theorem Alike.subset (alike : Alike all line line') (part : cs ⊆ all) : Alike cs line line' :=
  ⟨alike.1, fun c inside => alike.2 c (part inside)⟩

theorem findIdx?_cons_eq {p : String → Bool} (first : (line' :: lines').findIdx? p = (line :: lines).findIdx? p) :
    p line' = p line ∧ (p line = true ∨ lines'.findIdx? p = lines.findIdx? p) := by
  rw [List.findIdx?_cons, List.findIdx?_cons] at first
  cases here : p line <;> cases here' : p line' <;> simp only [here, here', if_true, if_false, Bool.false_eq_true] at first
  · exact ⟨rfl, .inr (Option.map_injective (fun _ _ => Nat.succ.inj) first)⟩
  · simp [eq_comm] at first
  · simp at first
  · exact ⟨rfl, .inl rfl⟩

-- Once a line that pins the version has been kept it is no matter which lines pin it.
theorem markLines_alike (alike : List.Forall₂ (Alike all) lines lines') (inside : c ∈ all) {kept : Bool}
    (first : kept = true ∨ lines'.findIdx? (pins c) = lines.findIdx? (pins c)) :
    List.Forall₂ (Alike all) (markLines c kept lines).1 (markLines c kept lines').1 ∧
      List.Forall₂ Shows (markLines c kept lines).2.1 (markLines c kept lines').2.1 := by
  induction alike generalizing kept with
  | nil => exact ⟨.nil, .nil⟩
  | @cons line line' lines lines' same _ ih =>
    have here : kept = true ∨ pins c line' = pins c line := first.imp_right fun found => (findIdx?_cons_eq found).1
    have later : (kept || pins c line) = true ∨ lines'.findIdx? (pins c) = lines.findIdx? (pins c) := by
      rcases first with rfl | found
      · exact .inl rfl
      · exact (findIdx?_cons_eq found).2.imp_left fun exact => by rw [exact, Bool.or_true]
    obtain ⟨left, replaced⟩ := ih later
    have now : (!pins c line' || kept) = (!pins c line || kept) ∧ (kept || pins c line') = (kept || pins c line) := by
      rcases here with rfl | agree
      · simp
      · simp [agree]
    rw [markLines_cons, markLines_cons, same.2 c inside, now.1, now.2]
    by_cases other : (asks c line && (!pins c line || kept)) = true
    · simp only [other, if_true]
      exact ⟨.cons same.mark left, .cons same.1 replaced⟩
    · simp only [other, if_false, Bool.false_eq_true]
      exact ⟨.cons same left, replaced⟩

theorem findIdx?_mapIdx {f : Nat → String → String} {p : String → Bool} (same : ∀ i line, p (f i line) = p line)
    (lines : List String) : (lines.mapIdx f).findIdx? p = lines.findIdx? p := by
  induction lines generalizing f with
  | nil => rfl
  | cons line lines ih => rw [List.mapIdx_cons, List.findIdx?_cons, List.findIdx?_cons, same, ih fun i => same (i + 1)]

theorem findIdx?_markLines {c' : Candidate} (other : c.normalizedName ≠ c'.normalizedName) (lines : List String) :
    (markLines c false lines).1.findIdx? (pins c') = lines.findIdx? (pins c') := by
  rw [markLines_first]
  exact findIdx?_mapIdx (fun i line => pins_replaced other _ line) lines

theorem any_eq_of_findIdx? {p : String → Bool} (first : lines'.findIdx? p = lines.findIdx? p) : lines'.any p = lines.any p := by
  rw [← List.findIdx?_isSome, ← List.findIdx?_isSome, first]

/-- What is said of a candidate, up to carriage returns. -/
structure PinnedAlike (p p' : Pinned) : Prop where
  candidate : p'.candidate = p.candidate
  alreadyPinned : p'.alreadyPinned = p.alreadyPinned
  replaced : List.Forall₂ Shows p.replaced p'.replaced

theorem markAll_alike (distinct : cs.Pairwise fun a b => a.normalizedName ≠ b.normalizedName)
    (alike : List.Forall₂ (Alike cs) lines lines')
    (first : ∀ c ∈ cs, lines'.findIdx? (pins c) = lines.findIdx? (pins c)) :
    List.Forall₂ Shows (markAll cs lines).1 (markAll cs lines').1 ∧
      List.Forall₂ PinnedAlike (markAll cs lines).2 (markAll cs lines').2 := by
  induction cs generalizing lines lines' with
  | nil => exact ⟨alike.imp fun _ _ same => same.1, .nil⟩
  | cons c cs ih =>
    obtain ⟨others, distinct⟩ := List.pairwise_cons.1 distinct
    obtain ⟨marked, replaced⟩ := markLines_alike alike List.mem_cons_self (.inr (first c List.mem_cons_self))
    have kept : (markLines c false lines').2.2 = (markLines c false lines).2.2 := by
      rw [markLines_kept, markLines_kept, any_eq_of_findIdx? (first c List.mem_cons_self)]
    obtain ⟨left, pinned⟩ := ih distinct (marked.imp fun _ _ same => same.subset (List.subset_cons_self _ _))
      fun c' inside => by
        rw [findIdx?_markLines (others c' inside), findIdx?_markLines (others c' inside),
          first c' (List.mem_cons_of_mem _ inside)]
    exact ⟨left, .cons ⟨rfl, kept, replaced⟩ pinned⟩

theorem unreplaced_alike {ps ps' : List Pinned} (alike : List.Forall₂ PinnedAlike ps ps') :
    (ps'.all fun p => p.replaced.isEmpty) = ps.all fun p => p.replaced.isEmpty := by
  induction alike with
  | nil => rfl
  | @cons p p' _ _ first _ ih =>
    have same : p'.replaced.isEmpty = p.replaced.isEmpty := by
      rw [Bool.eq_iff_iff, List.isEmpty_iff_length_eq_zero, List.isEmpty_iff_length_eq_zero, first.replaced.length_eq]
    rw [List.all_cons, List.all_cons, ih, same]

theorem inserted_eq (first : ∀ c ∈ cs, lines'.findIdx? (pins c) = lines.findIdx? (pins c)) :
    inserted cs lines' = inserted cs lines := by
  refine congrArg (List.map _) (List.filter_congr fun c inside => ?_)
  rw [any_eq_of_findIdx? (first c inside)]

theorem withoutReturns_eq_self (missing : '\r' ∉ text.toList) : withoutReturns text = text := by
  rw [withoutReturns, List.filter_eq_self.2, String.ofList_toList]
  intro c inside
  simpa using fun same : c = '\r' => missing (same ▸ inside)

theorem withoutReturns_append (text text' : String) :
    withoutReturns (text ++ text') = withoutReturns text ++ withoutReturns text' := by
  simp [withoutReturns]

theorem withoutReturns_shown (shown : Shows line line') (missing : '\r' ∉ line.toList) : withoutReturns line' = line := by
  rcases shown with rfl | rfl
  · exact withoutReturns_eq_self missing
  · rw [withoutReturns_append, withoutReturns_eq_self missing]
    exact String.append_empty

theorem map_withoutReturns (shown : List.Forall₂ Shows lines lines') (missing : ∀ line ∈ lines, '\r' ∉ line.toList) :
    lines'.map withoutReturns = lines := by
  induction shown with
  | nil => rfl
  | cons first _ ih =>
    rw [List.map_cons, withoutReturns_shown first (missing _ (by simp)),
      ih fun line inside => missing line (List.mem_cons_of_mem _ inside)]

theorem withoutReturns_textOf (lines : List String) (ended : Bool) :
    withoutReturns (textOf lines ended) = textOf (lines.map withoutReturns) ended := by
  have joined : withoutReturns (Text.joined "\n" lines) = Text.joined "\n" (lines.map withoutReturns) := by
    rw [withoutReturns, Text.joined, String.toList_ofList, Text.filter_join (by decide), Text.joined]
    simp [withoutReturns, Function.comp_def]
  have last : withoutReturns (if ended then "\n" else "") = if ended then "\n" else "" := by
    cases ended <;> rfl
  rw [textOf, textOf, withoutReturns_append, joined, last]

theorem withoutReturns_withReturns (missing : '\r' ∉ text.toList) : withoutReturns (withReturns text) = text := by
  apply String.toList_inj.1
  rw [withoutReturns, withReturns, String.toList_ofList, String.toList_ofList, List.filter_flatMap]
  generalize text.toList = cs at missing
  induction cs with
  | nil => rfl
  | cons c cs ih =>
    rw [List.mem_cons, not_or] at missing
    rw [List.flatMap_cons, ih missing.2]
    by_cases ended : c = '\n'
    · subst ended
      rfl
    · simp [ended, Ne.symm missing.1]

/-- The first line that pins a candidate has no comment. Lines with a comment are not broken by other line ends. -/
structure IsSteady (cs : List Candidate) (text : String) : Prop where
  plain : ∀ c ∈ cs, ∀ line, (endedLines text).find? (pins c) = some line → hasComment line = false
  unbroken : ∀ line ∈ endedLines text, hasComment line = true → ∀ ch ∈ line.toList, Text.isLineEnd ch = false

theorem linesOf_alike (steady : IsSteady cs text) : List.Forall₂ (Alike cs) (linesOf text) (linesOf (withReturns text)) := by
  rw [(linesOf_eq text).1, (linesOf_eq (withReturns text)).1, endedLines_withReturns, openLine_withReturns]
  refine List.rel_append ?_ (List.forall₂_same.2 fun line _ => ⟨.inl rfl, fun _ _ => rfl⟩)
  rw [List.forall₂_map_right_iff, List.forall₂_same]
  refine fun line inside => ⟨.inr rfl, fun c _ => ?_⟩
  by_cases commented : hasComment line = true
  · exact asks_return (steady.unbroken line inside commented)
  · rw [asks, Requirement.parse?_return_of_plain (by simpa using commented)]
    rfl

theorem findIdx?_pins_return (written : IsWritten c)
    (plain : ∀ line, lines.find? (pins c) = some line → hasComment line = false) :
    (lines.map (· ++ "\r")).findIdx? (pins c) = lines.findIdx? (pins c) := by
  induction lines with
  | nil => rfl
  | cons line lines ih =>
    rw [List.map_cons, List.findIdx?_cons, List.findIdx?_cons, pins_return written]
    by_cases here : pins c line = true
    · rw [here, plain line (List.find?_cons_of_pos here)]
      rfl
    · rw [List.find?_cons_of_neg here] at plain
      rw [ih plain, Bool.eq_false_iff.2 here]
      rfl

theorem findIdx?_linesOf (written : IsWritten c)
    (plain : ∀ line, (endedLines text).find? (pins c) = some line → hasComment line = false) :
    (linesOf (withReturns text)).findIdx? (pins c) = (linesOf text).findIdx? (pins c) := by
  rw [(linesOf_eq text).1, (linesOf_eq (withReturns text)).1, endedLines_withReturns, openLine_withReturns,
    List.findIdx?_append, List.findIdx?_append, findIdx?_pins_return written plain, List.length_map]

theorem any_pins_withReturns (written : IsWritten c) (text : String) : (linesOf (withReturns text)).any (pins c) =
    ((endedLines text).any (fun line => pins c line && !hasComment line) || pins c (openLine text)) := by
  have last : (if openLine text = "" then [] else [openLine text]).any (pins c) = pins c (openLine text) := by
    split
    · rename_i empty
      rw [empty]
      rfl
    · simp
  have ended : pins c ∘ (· ++ "\r") = fun line => pins c line && !hasComment line := funext (pins_return written)
  rw [(linesOf_eq (withReturns text)).1, endedLines_withReturns, openLine_withReturns, List.any_append, last,
    List.any_map, ended]

theorem pin_alike (distinct : cs.Pairwise fun a b => a.normalizedName ≠ b.normalizedName)
    (written : ∀ c ∈ cs, IsWritten c) (missing : '\r' ∉ text.toList) (steady : IsSteady cs text) :
    List.Forall₂ PinnedAlike (pin text cs).2 (pin (withReturns text) cs).2 ∧
      withoutReturns (pin (withReturns text) cs).1 = (pin text cs).1 := by
  have first := fun c inside => findIdx?_linesOf (written c inside) (steady.plain c inside)
  obtain ⟨marked, pinned⟩ := markAll_alike distinct (linesOf_alike steady) first
  rw [markAll_lines distinct, markAll_lines distinct] at marked
  have ended : (withReturns text = "" || endsLine (withReturns text)) = (text = "" || endsLine text) := by
    rw [(linesOf_eq _).2, (linesOf_eq _).2, openLine_withReturns]
  have added {line : String} (inside : line ∈ inserted cs (linesOf text)) : '\r' ∉ line.toList :=
    not_mem_inserted (fun pin => absurd pin.visible (by decide)) written inside
  have left {line : String} (inside : line ∈ remaining cs (linesOf text)) : '\r' ∉ line.toList :=
    not_mem_remaining (by decide)
      (fun _ member found => missing (Text.mem_of_mem_fields (mem_fields_of_mem_linesOf member) found)) inside
  have shown : (inserted cs (linesOf text) ++ remaining cs (linesOf (withReturns text))).map withoutReturns =
      inserted cs (linesOf text) ++ remaining cs (linesOf text) := by
    rw [List.map_append, map_withoutReturns marked fun _ => left,
      List.map_congr_left fun line inside => withoutReturns_eq_self (added inside), List.map_id']
  rw [pin_eq distinct, pin_eq distinct, ended, unreplaced_alike pinned, inserted_eq first]
  split
  · exact ⟨pinned, withoutReturns_withReturns missing⟩
  · exact ⟨pinned, by rw [withoutReturns_textOf, shown]⟩

/-- In a text with carriage returns a candidate counts as pinned just if a line without a comment pins it, or the
last line does where nothing ends the line. If no comment is in the first line that pins a candidate, all is as
for the text without them, up to the carriage returns. -/
theorem pin_withReturns (distinct : cs.Pairwise fun a b => a.normalizedName ≠ b.normalizedName)
    (written : ∀ c ∈ cs, IsWritten c) (missing : '\r' ∉ text.toList) :
    (pin (withReturns text) cs).2.map (fun p => (p.candidate, p.alreadyPinned)) = cs.map (fun c =>
        (c, (endedLines text).any (fun line => pins c line && !hasComment line) || pins c (openLine text))) ∧
      (IsSteady cs text → List.Forall₂ PinnedAlike (pin text cs).2 (pin (withReturns text) cs).2 ∧
        withoutReturns (pin (withReturns text) cs).1 = (pin text cs).1) := by
  refine ⟨?_, pin_alike distinct written missing⟩
  rw [pin_pinned, markAll_kept distinct]
  refine List.map_congr_left fun c inside => ?_
  rw [any_pins_withReturns (written c inside)]

end

section Sample

def commentedText : String := "torch==2.0 # built here\n"

def steadyText : String := "torch==2.0\napex >= 1 # old\nnumpy # why"

theorem pin_withReturns_sample :
    (pin commentedText sampleCandidates).2.map (fun p => p.alreadyPinned) = [false, true] ∧
      (pin (withReturns commentedText) sampleCandidates).2.map (fun p => p.alreadyPinned) = [false, false] ∧
      (pin (withReturns steadyText) sampleCandidates).2.map (fun p => p.alreadyPinned) = [false, true] ∧
      withoutReturns (pin (withReturns steadyText) sampleCandidates).1 = (pin steadyText sampleCandidates).1 := by
  have distinct : sampleCandidates.Pairwise fun a b => a.normalizedName ≠ b.normalizedName := by decide +kernel
  have written : ∀ c ∈ sampleCandidates, IsWritten c := by
    unfold IsWritten
    decide +kernel
  have steady : IsSteady sampleCandidates steadyText := by
    have lines : endedLines steadyText = ["torch==2.0", "apex >= 1 # old"] := by decide +kernel
    refine ⟨by rw [lines]; decide +kernel, fun line inside _ => ?_⟩
    rw [lines] at inside
    have whole : ["torch==2.0", "apex >= 1 # old"].all (fun line => !line.toList.any Text.isLineEnd) = true := by
      decide +kernel
    simpa using List.all_eq_true.1 whole line inside
  have bare : '\r' ∉ commentedText.toList ∧ '\r' ∉ steadyText.toList := by decide +kernel
  have noted := (pin_withReturns distinct written bare.1).1
  obtain ⟨flags, same⟩ := pin_withReturns distinct written bare.2
  have second := congrArg (List.map Prod.snd) noted
  have third := congrArg (List.map Prod.snd) flags
  simp only [List.map_map, Function.comp_def] at second third
  rw [second, third]
  exact ⟨by decide +kernel, by decide +kernel, by decide +kernel, (same steady).2⟩

end Sample

end RequirementFile

end Wheelhouse
