import Wheelhouse.Filter.Metadata
import Wheelhouse.Package.Specifier
import Wheelhouse.Proofs.Package.RequirementLine
import Wheelhouse.Proofs.Text.Fields

/-!
What metadata declare about a package. Of the header lines that declare it the last one sets its condition, so
that a version is held against one line even where others declare the package as well.
-/

set_option autoImplicit false

namespace Wheelhouse.Metadata

/-- The lines of a text. All but the last end in a line feed, perhaps with a carriage return before it. -/
inductive AreLines : List Char → List (List Char) → Prop where
  | last {line : List Char} (unbroken : '\n' ∉ line) : AreLines line [line]
  | feed {line cs : List Char} {lines : List (List Char)} (unbroken : '\n' ∉ line) (bare : line.getLast? ≠ some '\r')
      (others : AreLines cs lines) : AreLines (line ++ '\n' :: cs) (line :: lines)
  | returnFeed {line cs : List Char} {lines : List (List Char)} (unbroken : '\n' ∉ line) (others : AreLines cs lines) :
      AreLines (line ++ '\r' :: '\n' :: cs) (line :: lines)

/-- The lines of a text before its first empty one. -/
def AreHeaders (text : String) (heads : List (List Char)) : Prop :=
  ∃ rest, AreLines text.toList (heads ++ rest) ∧ (∀ line ∈ heads, line ≠ []) ∧ ∀ line, rest.head? = some line → line = []

/-- A line that declares a requirement: the field in any letter case, and then its value on one line. -/
def IsDeclaration (r : Requirement) (line : List Char) : Prop :=
  ∃ field pad value, line = field ++ pad ++ value ∧ field.map Char.toLower = "requires-dist:".toList ∧
    Text.IsPad pad ∧ (∃ c, value.head? = some c ∧ Text.isBlank c = false) ∧
    (∀ c ∈ value, Text.isLineEnd c = false) ∧ Requirement.parse? (String.ofList value) = some r

/-- The word `extra` and an equality after it. -/
def WritesExtra (cs : List Char) : Prop :=
  ∃ pad after, cs = "extra".toList ++ pad ++ "==".toList ++ after ∧ Text.IsPad pad

/-- A marker that compares `extra`, where no other word ends in it. -/
def TestsExtra (r : Requirement) : Prop :=
  ∃ marker before rest, r.marker = some marker ∧ marker.toList = before ++ rest ∧ WritesExtra rest ∧
    ∀ c, before.getLast? = some c → isWordChar c = false

/-- The requirements that lines declare for a package and that count, in their order. -/
inductive Collects (name : String) : List (List Char) → List Requirement → Prop where
  | nil : Collects name [] []
  | take {line : List Char} {lines : List (List Char)} {r : Requirement} {rs : List Requirement}
      (declared : IsDeclaration r line) (named : r.normalizedName = name) (counted : ¬TestsExtra r)
      (others : Collects name lines rs) : Collects name (line :: lines) (r :: rs)
  | skip {line : List Char} {lines : List (List Char)} {rs : List Requirement}
      (uncounted : ∀ r, IsDeclaration r line → r.normalizedName = name → TestsExtra r)
      (others : Collects name lines rs) : Collects name (line :: lines) rs

section

variable {cs line word : List Char} {ls heads : List (List Char)} {text name : String} {r : Requirement}
variable {rs : List Requirement} {found : Dependencies}

theorem withoutReturn_concat (line : List Char) : withoutReturn (line ++ ['\r']) = line := by
  simp [withoutReturn]

theorem lines_of_unbroken (unbroken : '\n' ∉ line) : lines (String.ofList line) = [line] := by
  have single : Text.split (· == '\n') line = [line] :=
    Text.split_of_forall_not fun c inside => by
      rw [beq_eq_false_iff_ne]
      rintro rfl
      exact unbroken inside
  simp [lines, single]

theorem lines_append (unbroken : '\n' ∉ line) (cs : List Char) :
    lines (String.ofList (line ++ '\n' :: cs)) = withoutReturn line :: lines (String.ofList cs) := by
  have first : Text.split (· == '\n') (line ++ '\n' :: cs) = line :: Text.split (· == '\n') cs := by
    refine Text.split_append_cons cs (fun c inside => ?_) rfl
    rw [beq_eq_false_iff_ne]
    rintro rfl
    exact unbroken inside
  have filled := Text.split_ne_nil (· == '\n') cs
  simp only [lines, String.toList_ofList, first]
  obtain ⟨before, last, whole⟩ := List.eq_nil_or_concat _ |>.resolve_left filled
  simp [whole]

theorem AreLines.lines_eq (areLines : AreLines cs ls) : lines (String.ofList cs) = ls := by
  induction areLines with
  | last unbroken => exact lines_of_unbroken unbroken
  | feed unbroken bare _ ih => rw [lines_append unbroken, ih, withoutReturn, if_neg bare]
  | @returnFeed line cs _ unbroken _ ih =>
    have whole : line ++ '\r' :: '\n' :: cs = (line ++ ['\r']) ++ '\n' :: cs := by simp
    rw [whole, lines_append (by simpa using unbroken), ih, withoutReturn_concat]

theorem areLines_lines (cs : List Char) : AreLines cs (lines (String.ofList cs)) := by
  have parts : ∀ fs : List (List Char), fs ≠ [] → (∀ f ∈ fs, '\n' ∉ f) → ∃ ls, AreLines (Text.join ['\n'] fs) ls := by
    intro fs
    induction fs with
    | nil => exact fun filled => absurd rfl filled
    | cons f fs ih =>
      intro _ unbroken
      cases fs with
      | nil => exact ⟨_, .last (unbroken f (by simp))⟩
      | cons g fs =>
        obtain ⟨ls, others⟩ := ih (by simp) fun f inside => unbroken f (List.mem_cons_of_mem _ inside)
        rw [Text.join_cons_cons, List.append_assoc]
        by_cases ended : f.getLast? = some '\r'
        · obtain ⟨line, rfl⟩ := List.getLast?_eq_some_iff.1 ended
          have bare : '\n' ∉ line := fun inside => unbroken _ List.mem_cons_self (List.mem_append_left _ inside)
          exact ⟨_, by simpa using AreLines.returnFeed bare others⟩
        · exact ⟨_, .feed (unbroken f (by simp)) ended others⟩
  obtain ⟨filled, unbroken, whole⟩ := Text.split_eq_iff.1 (rfl : Text.split (· == '\n') cs = _)
  obtain ⟨ls, found⟩ := parts _ filled unbroken
  rw [← whole] at found
  rwa [found.lines_eq]

theorem areHeaders_headers (text : String) : AreHeaders text (headers text) := by
  refine ⟨(lines text).dropWhile fun l => !l.isEmpty, ?_, ?_, ?_⟩
  · rw [headers, List.takeWhile_append_dropWhile]
    simpa using areLines_lines text.toList
  · intro line inside
    simpa using List.mem_takeWhile_imp inside
  · intro line first
    have stop := List.head?_dropWhile_not (fun l : List Char => !l.isEmpty) (lines text)
    rw [first] at stop
    simpa using stop

theorem AreHeaders.headers_eq (areHeaders : AreHeaders text heads) : headers text = heads := by
  obtain ⟨rest, areLines, filled, stop⟩ := areHeaders
  have whole : lines text = heads ++ rest := by simpa using areLines.lines_eq
  have none : rest.takeWhile (fun l => !l.isEmpty) = [] := by
    cases rest with
    | nil => rfl
    | cons line rest => simp [stop line rfl]
  rw [headers, whole, List.takeWhile_append_of_pos fun line inside => by simpa using filled line inside, none,
    List.append_nil]

theorem dropField?_eq_some_iff {rest : List Char} :
    dropField? word cs = some rest ↔ ∃ field, cs = field ++ rest ∧ field.map Char.toLower = word := by
  induction word generalizing cs with
  | nil => simp [dropField?, eq_comm]
  | cons w word ih =>
    cases cs with
    | nil => simp [dropField?]
    | cons c cs =>
      rw [dropField?]
      constructor
      · intro dropped
        split at dropped
        · rename_i same
          obtain ⟨field, rfl, spelled⟩ := ih.1 dropped
          exact ⟨c :: field, rfl, by simp [same, spelled]⟩
        · cases dropped
      · rintro ⟨field, whole, spelled⟩
        cases field with
        | nil => cases spelled
        | cons d field =>
          obtain ⟨rfl, rfl⟩ := List.cons.inj whole
          obtain ⟨same, spelled⟩ := List.cons.inj spelled
          rw [if_pos same]
          exact ih.2 ⟨field, rfl, spelled⟩

theorem declared?_eq_some_iff : declared? line = some r ↔ IsDeclaration r line := by
  constructor
  · intro declared
    unfold declared? at declared
    cases dropped : dropField? "requires-dist:".toList line with
    | none => simp only [dropped, reduceCtorEq] at declared
    | some rest =>
      simp only [dropped] at declared
      split at declared
      · cases declared
      · rename_i valued
        simp only [Bool.or_eq_true, not_or, Bool.not_eq_true, List.any_eq_false, List.isEmpty_eq_false_iff] at valued
        obtain ⟨field, rfl, spelled⟩ := dropField?_eq_some_iff.1 dropped
        refine ⟨field, rest.takeWhile Text.isBlank, _, ?_, spelled, fun c => List.mem_takeWhile_imp, ?_,
          fun c inside => by simpa using valued.2 c inside, declared⟩
        · rw [List.append_assoc, List.takeWhile_append_dropWhile]
        · obtain ⟨c, after, whole⟩ := List.exists_cons_of_ne_nil valued.1
          have stop := List.head?_dropWhile_not Text.isBlank rest
          rw [whole] at stop
          exact ⟨c, by rw [whole]; rfl, by simpa using stop⟩
  · rintro ⟨field, pad, value, rfl, spelled, blank, ⟨c, first, visible⟩, unbroken, parsed⟩
    have dropped : dropField? "requires-dist:".toList (field ++ pad ++ value) = some (pad ++ value) :=
      dropField?_eq_some_iff.2 ⟨field, List.append_assoc .., spelled⟩
    obtain ⟨after, rfl⟩ := List.head?_eq_some_iff.1 first
    have left : (pad ++ c :: after).dropWhile Text.isBlank = c :: after := by
      rw [List.dropWhile_append_of_pos blank, List.dropWhile_cons_of_neg (by simp [visible])]
    have whole : (c :: after).any Text.isLineEnd = false := by
      rw [List.any_eq_false]
      exact fun c inside => by simpa using unbroken c inside
    simp only [declared?, dropped, left, whole, List.isEmpty_cons, Bool.or_false, Bool.false_eq_true, if_false]
    exact parsed

theorem startsExtra_iff : startsExtra cs = true ↔ WritesExtra cs := by
  unfold startsExtra WritesExtra
  constructor
  · intro starts
    split at starts
    · rename_i rest dropped
      obtain ⟨after, whole⟩ := List.isPrefixOf_iff_prefix.1 starts
      refine ⟨rest.takeWhile Text.isBlank, after, ?_, fun c => List.mem_takeWhile_imp⟩
      rw [List.append_assoc, whole, List.append_assoc, List.takeWhile_append_dropWhile,
        Text.dropBeginning?_eq_some_iff.1 dropped]
    · cases starts
  · rintro ⟨pad, after, rfl, blank⟩
    rw [Text.dropBeginning?_eq_some_iff.2 (show _ = "extra".toList ++ (pad ++ ("==".toList ++ after)) by simp)]
    rw [List.isPrefixOf_iff_prefix]
    exact ⟨after, by rw [List.dropWhile_append_of_pos blank]; rfl⟩

theorem getD_isWordChar_cons (c : Char) (before : List Char) (inWord : Bool) :
    ((c :: before).getLast?.map isWordChar).getD inWord = (before.getLast?.map isWordChar).getD (isWordChar c) := by
  rw [List.getLast?_cons]
  cases before.getLast? <;> rfl

-- What stands before the extra decides whether a word goes on there, or if nothing does, what came before all.
theorem asksForExtra_iff (inWord : Bool) : asksForExtra inWord cs = true ↔
    ∃ before rest, cs = before ++ rest ∧ WritesExtra rest ∧ (before.getLast?.map isWordChar).getD inWord = false := by
  induction cs generalizing inWord with
  | nil =>
    refine iff_of_false (by simp [asksForExtra]) ?_
    rintro ⟨before, rest, whole, ⟨pad, after, rfl, _⟩, _⟩
    simp at whole
  | cons c cs ih =>
    rw [asksForExtra, Bool.or_eq_true, Bool.and_eq_true, startsExtra_iff, ih]
    constructor
    · rintro (⟨free, writes⟩ | ⟨before, rest, rfl, writes, free⟩)
      · exact ⟨[], _, rfl, writes, by simpa using free⟩
      · exact ⟨c :: before, rest, rfl, writes, by rw [getD_isWordChar_cons, free]⟩
    · rintro ⟨before, rest, whole, writes, free⟩
      cases before with
      | nil =>
        obtain rfl : c :: cs = rest := whole
        exact .inl ⟨by simpa using free, writes⟩
      | cons d before =>
        obtain ⟨rfl, rfl⟩ := List.cons.inj whole
        exact .inr ⟨before, rest, rfl, writes, by rw [← free, getD_isWordChar_cons]⟩

theorem counts_iff : counts r = true ↔ ¬TestsExtra r := by
  unfold counts TestsExtra
  cases r.marker with
  | none => simp
  | some marker =>
    rw [Bool.not_eq_true', ← Bool.not_eq_true, not_iff_not, asksForExtra_iff]
    constructor
    · rintro ⟨before, rest, whole, writes, free⟩
      exact ⟨marker, before, rest, rfl, whole, writes, fun c last => by simpa [last] using free⟩
    · rintro ⟨_, before, rest, same, whole, writes, free⟩
      cases same
      refine ⟨before, rest, whole, writes, ?_⟩
      cases last : before.getLast? with
      | none => rfl
      | some c => exact free c last

/-- The condition that a requirement sets on the version. -/
def condition (r : Requirement) : String := withoutParentheses r.specifier

/-- The requirements of a package that lines declare, as they are read. -/
def collected (name : String) (ls : List (List Char)) : List Requirement :=
  (ls.filterMap declared?).filter fun r => counts r && r.normalizedName = name

theorem Collects.collected_eq (collects : Collects name ls rs) : collected name ls = rs := by
  induction collects with
  | nil => rfl
  | take declared named uncounted _ ih =>
    simpa [collected, declared?_eq_some_iff.2 declared, counts_iff.2 uncounted, named] using ih
  | @skip line lines rs uncounted _ ih =>
    cases read : declared? line with
    | none => simpa [collected, read] using ih
    | some r =>
      have out : ¬(counts r = true ∧ r.normalizedName = name) := fun ⟨counted, named⟩ =>
        counts_iff.1 counted (uncounted r (declared?_eq_some_iff.1 read) named)
      simpa [collected, read, out] using ih

theorem collects_collected (name : String) (ls : List (List Char)) : Collects name ls (collected name ls) := by
  induction ls with
  | nil => exact .nil
  | cons line ls ih =>
    by_cases taken : ∃ r, IsDeclaration r line ∧ r.normalizedName = name ∧ ¬TestsExtra r
    · obtain ⟨r, declared, named, counted⟩ := taken
      have whole : collected name (line :: ls) = r :: collected name ls := by
        simp [collected, declared?_eq_some_iff.2 declared, counts_iff.2 counted, named]
      rw [whole]
      exact .take declared named counted ih
    · have skipped : Collects name (line :: ls) (collected name ls) :=
        .skip (fun r declared named => by_contra fun counted => taken ⟨r, declared, named, counted⟩) ih
      rwa [skipped.collected_eq]

theorem lookup_entry (name other condition : String) (found : Dependencies) :
    List.lookup name ((other, condition) :: found) = if name = other then some condition else found.lookup name := by
  by_cases same : name = other
  · simp [same]
  · simp [List.lookup_cons, same, beq_eq_false_iff_ne.2 same]

theorem lookup_declare (name other condition : String) (found : Dependencies) :
    (declare other condition found).lookup name = if name = other then some condition else found.lookup name := by
  induction found with
  | nil => exact lookup_entry ..
  | cons entry found ih =>
    obtain ⟨first, old⟩ := entry
    rw [declare]
    by_cases there : first = other
    · subst there
      rw [if_pos rfl, lookup_entry, lookup_entry]
      split <;> rfl
    · rw [if_neg there, lookup_entry, lookup_entry, ih]
      by_cases same : name = first
      · rw [if_pos same, if_neg (same ▸ there), if_pos same]
      · rw [if_neg same, if_neg same]

-- A later line takes the place of an earlier one.
theorem lookup_foldl_addLine (name : String) (ls : List (List Char)) (found : Dependencies) :
    (ls.foldl addLine found).lookup name = ((collected name ls).getLast?.map condition).or (found.lookup name) := by
  induction ls generalizing found with
  | nil => rfl
  | cons line ls ih =>
    rw [List.foldl_cons, ih]
    cases read : declared? line with
    | none => simp [collected, addLine, read]
    | some r =>
      by_cases taken : counts r = true ∧ r.normalizedName = name
      · obtain ⟨counted, rfl⟩ := taken
        have whole : collected r.normalizedName (line :: ls) = r :: collected r.normalizedName ls := by
          simp [collected, read, counted]
        simp only [addLine, read, counted, if_true, lookup_declare, whole, List.getLast?_cons]
        cases (collected r.normalizedName ls).getLast? <;> rfl
      · have whole : collected name (line :: ls) = collected name ls := by simp [collected, read, taken]
        have same : (addLine found line).lookup name = found.lookup name := by
          by_cases counted : counts r = true
          · have other : name ≠ r.normalizedName := fun named => taken ⟨counted, named.symm⟩
            simp [addLine, read, counted, lookup_declare, other]
          · simp [addLine, read, counted]
        rw [whole, same]

theorem map_fst_declare (name condition : String) (found : Dependencies) :
    (declare name condition found).map Prod.fst =
      if name ∈ found.map Prod.fst then found.map Prod.fst else found.map Prod.fst ++ [name] := by
  induction found with
  | nil => rfl
  | cons entry found ih =>
    obtain ⟨first, old⟩ := entry
    rw [declare]
    by_cases there : first = name
    · simp [there]
    · have inside : name ∈ first :: found.map Prod.fst ↔ name ∈ found.map Prod.fst := by simp [Ne.symm there]
      simp only [if_neg there, List.map_cons, ih]
      split
      · rw [if_pos (inside.2 ‹_›)]
      · rw [if_neg (mt inside.1 ‹_›)]
        rfl

theorem nodup_declare (name condition : String) (distinct : (found.map Prod.fst).Nodup) :
    ((declare name condition found).map Prod.fst).Nodup := by
  rw [map_fst_declare]
  split
  · exact distinct
  · rename_i absent
    refine List.nodup_append.2 ⟨distinct, List.pairwise_singleton _ _, ?_⟩
    rintro other inside _ last rfl
    exact absent (List.mem_singleton.1 last ▸ inside)

theorem nodup_dependencies (text : String) : ((dependencies text).map Prod.fst).Nodup := by
  have lines (ls : List (List Char)) (found : Dependencies) (distinct : (found.map Prod.fst).Nodup) :
      ((ls.foldl addLine found).map Prod.fst).Nodup := by
    induction ls generalizing found with
    | nil => exact distinct
    | cons line ls ih =>
      refine ih _ ?_
      unfold addLine
      split
      · split
        · exact nodup_declare _ _ distinct
        · exact distinct
      · exact distinct
  exact lines _ _ List.nodup_nil

/-- Metadata declare a package just if a header line does that counts, and the last such line sets the condition.
A version that meets the conditions of all those lines meets it; the converse holds just if no line before the
last one shuts out a version that the last one allows. -/
theorem dependencies_condition (headed : AreHeaders text heads) (collects : Collects name heads rs) :
    ((dependencies text).map Prod.fst).Nodup ∧ (dependencies text).lookup name = rs.getLast?.map condition ∧
      ∀ declared, (dependencies text).lookup name = some declared →
        (∀ v, (∀ r ∈ rs, Specifier.isSatisfied (condition r) v = true) → Specifier.isSatisfied declared v = true) ∧
        ((∀ v, Specifier.isSatisfied declared v = true ↔ ∀ r ∈ rs, Specifier.isSatisfied (condition r) v = true) ↔
          ∀ r ∈ rs.dropLast, ∀ v, Specifier.isSatisfied declared v = true →
            Specifier.isSatisfied (condition r) v = true) := by
  have last : (dependencies text).lookup name = rs.getLast?.map condition := by
    rw [dependencies, headed.headers_eq, lookup_foldl_addLine, collects.collected_eq]
    exact Option.or_none
  refine ⟨nodup_dependencies text, last, fun declared found => ?_⟩
  rw [last, Option.map_eq_some_iff] at found
  obtain ⟨final, found, rfl⟩ := found
  obtain ⟨before, rfl⟩ := List.getLast?_eq_some_iff.1 found
  have meets (v : String) (all : ∀ r ∈ before ++ [final], Specifier.isSatisfied (condition r) v = true) :
      Specifier.isSatisfied (condition final) v = true := all final (by simp)
  refine ⟨meets, ?_⟩
  rw [List.dropLast_concat]
  constructor
  · intro whole r inside v allowed
    exact (whole v).1 allowed r (List.mem_append_left _ inside)
  · intro implied v
    refine ⟨fun allowed r inside => ?_, meets v⟩
    rcases List.mem_append.1 inside with earlier | here
    · exact implied r earlier v allowed
    · rwa [List.mem_singleton.1 here]

end

section Sample

def sampleText : String :=
  "Requires-Dist: a_b (>=2.8)\r\nrequires-dist:A.b <3\nRequires-Dist: a-b==1; extra==\"x\"\n\nRequires-Dist: a-b==9"

-- A version below the first condition meets the second one, which is declared later.
theorem dependencies_condition_sample : (dependencies sampleText).lookup "a-b" = some "<3" ∧
    collected "a-b" (headers sampleText) = [⟨"a_b", none, "(>=2.8)", none⟩, ⟨"A.b", none, "<3", none⟩] ∧
    Specifier.isSatisfied "<3" "2.7.4" = true ∧ Specifier.isSatisfied ">=2.8" "2.7.4" = false := by
  have lines : collected "a-b" (headers sampleText) = [⟨"a_b", none, "(>=2.8)", none⟩, ⟨"A.b", none, "<3", none⟩] := by
    decide +kernel
  have collects := collects_collected "a-b" (headers sampleText)
  obtain ⟨_, last, _⟩ := dependencies_condition (areHeaders_headers sampleText) collects
  rw [last, lines]
  decide +kernel

end Sample

end Wheelhouse.Metadata
