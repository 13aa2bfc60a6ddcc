import Mathlib.Data.List.DropRight
import Wheelhouse.Proofs.Package.Name
import Wheelhouse.Proofs.Package.ReturnLine

/-!
Which pins ask for the package that they name. A normal form loses no blank and no number sign, and no longer text
has the normal form of a name at its start; so a pin is read back just if its name is the name of a package.
-/

set_option autoImplicit false

namespace Wheelhouse

namespace Text

variable {c : Char} {cs start : List Char}

/-- Whether a character stays as it is wherever it stands in a text that is put into small letters. -/
def IsSteady (c : Char) : Prop := lowerChar c = c ∧ c ≠ 'Σ' ∧ c ≠ 'İ'

def blankRuns : List (Nat × Nat) :=
  [(9, 13), (0x20, 0x20), (0xA0, 0xA0), (0x1680, 0x1680), (0x2000, 0x200A), (0x2028, 0x2029), (0x202F, 0x202F),
    (0x205F, 0x205F), (0x3000, 0x3000), (0xFEFF, 0xFEFF)]

theorem exists_blankRun (blank : isBlank c = true) : ∃ b ∈ blankRuns, b.1 ≤ c.toNat ∧ c.toNat ≤ b.2 := by
  simp only [isBlank, Bool.or_eq_true, Bool.and_eq_true, decide_eq_true_eq, beq_iff_eq] at blank
  simp only [blankRuns, List.mem_cons, List.not_mem_nil, or_false, exists_eq_or_imp, exists_eq_left]
  omega

theorem isSteady_of_isBlank (blank : isBlank c = true) : IsSteady c := by
  obtain ⟨b, member, low, high⟩ := exists_blankRun blank
  have apart : (lowerCaseRuns.all fun r => blankRuns.all fun b => b.2 < r.first || r.last < b.1) = true := by
    decide +kernel
  have uncovered : lowerCaseRuns.find? (·.covers c.toNat) = none := by
    rw [List.find?_eq_none]
    intro r inside covered
    have outside := List.all_eq_true.1 (List.all_eq_true.1 apart r inside) b member
    simp only [Bool.or_eq_true, decide_eq_true_eq] at outside
    simp only [CaseRun.covers, Bool.and_eq_true, decide_eq_true_eq] at covered
    omega
  have small : c.toLower = c := by
    have unlettered : (blankRuns.all fun b => b.2 < 65 || 90 < b.1) = true := by decide
    have outside := List.all_eq_true.1 unlettered b member
    simp only [Bool.or_eq_true, decide_eq_true_eq] at outside
    have code : c.val.toNat = c.toNat := rfl
    apply dif_neg
    rw [ge_iff_le, UInt32.le_iff_toNat_le, UInt32.le_iff_toNat_le, code]
    change ¬(65 ≤ c.toNat ∧ c.toNat ≤ 90)
    omega
  refine ⟨?_, ?_, ?_⟩
  · simp [lowerChar, uncovered, small]
  · rintro rfl
    cases blank
  · rintro rfl
    cases blank

theorem mem_lower (inside : c ∈ cs) (steady : IsSteady c) : c ∈ lower cs := by
  obtain ⟨same, sigma, dotted⟩ := steady
  have word (inWord : Bool) : c ∈ lowerFrom inWord cs := by
    induction cs generalizing inWord with
    | nil => cases inside
    | cons d ds ih =>
      rw [lowerFrom]
      rcases List.mem_cons.1 inside with rfl | later
      · simp [sigma, dotted, same]
      · have rest := ih later (if isCaseIgnorable d then inWord else isCased d)
        by_cases first : (d == 'Σ') = true
        · rw [if_pos first]
          exact List.mem_cons_of_mem _ rest
        · rw [if_neg first]
          split
          · exact List.mem_cons_of_mem _ (List.mem_cons_of_mem _ rest)
          · exact List.mem_cons_of_mem _ rest
  unfold lower
  split
  · rename_i ascii
    have low : c.toNat < 0x80 := by simpa using List.all_eq_true.1 ascii c inside
    rw [lowerChar, if_pos low] at same
    exact List.mem_map.2 ⟨c, inside, same⟩
  · exact word false

-- What ASCII characters stand at the start of a text stand there in small letters, and what follows is not lost.
theorem lower_append_of_ascii (ascii : ∀ c ∈ start, c.toNat < 0x80) (cs : List Char) :
    ∃ rest, lower (start ++ cs) = start.map Char.toLower ++ rest ∧ (rest = [] → cs = []) := by
  have kept (inWord : Bool) (cs : List Char) : lowerFrom inWord cs = [] → cs = [] := by
    intro empty
    cases cs with
    | nil => rfl
    | cons d ds =>
      rw [lowerFrom] at empty
      split at empty
      · cases empty
      · split at empty <;> cases empty
  have word (inWord : Bool) : ∃ inWord', lowerFrom inWord (start ++ cs) = start.map Char.toLower ++ lowerFrom inWord' cs := by
    induction start generalizing inWord with
    | nil => exact ⟨inWord, rfl⟩
    | cons d ds ih =>
      have low := ascii d (by simp)
      have others : d ≠ 'Σ' ∧ d ≠ 'İ' := by
        constructor <;>
        · rintro rfl
          simp at low
      obtain ⟨inWord', rest⟩ := ih (fun c inside => ascii c (by simp [inside])) (if isCaseIgnorable d then inWord else isCased d)
      exact ⟨inWord', by simp [lowerFrom, others, lowerChar, low, rest]⟩
  unfold lower
  split
  · exact ⟨cs.map Char.toLower, List.map_append .., List.map_eq_nil_iff.1⟩
  · obtain ⟨inWord', whole⟩ := word false
    exact ⟨_, whole, kept inWord' cs⟩

end Text

namespace PackageName

variable {c : Char} {cs : List Char} {name name' : String}

theorem mem_collapse (inside : c ∈ cs) (other : isSeparator c = false) : c ∈ collapse cs := by
  induction cs with
  | nil => cases inside
  | cons d ds ih =>
    rw [collapse]
    rcases List.mem_cons.1 inside with rfl | later
    · simp [other]
    · have rest := ih later
      split
      · split
        · rename_i same
          rwa [same] at rest
        · exact List.mem_cons_of_mem _ rest
      · exact List.mem_cons_of_mem _ rest

theorem mem_of_mem_collapse (inside : c ∈ collapse cs) : c ∈ cs ∨ c = '-' := by
  induction cs with
  | nil => cases inside
  | cons d ds ih =>
    have later (rest : c ∈ collapse ds) : c ∈ d :: ds ∨ c = '-' := (ih rest).imp_left (List.mem_cons_of_mem _)
    rw [collapse] at inside
    split at inside
    · split at inside
      · rename_i same
        exact later (same ▸ inside)
      · exact (List.mem_cons.1 inside).elim .inr later
    · rcases List.mem_cons.1 inside with rfl | rest
      · exact .inl List.mem_cons_self
      · exact later rest

theorem IsSmall.isPinChar (small : IsSmall c) : Requirement.IsPinChar c := by
  refine .inl ?_
  rcases small with letter | digit
  · have alpha : c.isAlpha = true := Bool.or_eq_true_iff.2 (.inr letter)
    exact Bool.or_eq_true_iff.2 (.inl alpha)
  · exact Bool.or_eq_true_iff.2 (.inr digit)

-- Whatever stays in a normal form and is not the separator there is a small letter or digit.
theorem isSmall_of_normalize (named : isName name' = true) (same : normalize name = normalize name')
    (inside : c ∈ name.toList) (steady : Text.IsSteady c) (other : isSeparator c = false) : IsSmall c := by
  have spelled : Spelling ['.', '_', '-'] name'.toList := isSpelling_name_iff.1 named
  have member : c ∈ collapse (Text.lower name'.toList) := by
    have equal : collapse (Text.lower name.toList) = collapse (Text.lower name'.toList) := String.ofList_injective same
    rw [← equal]
    exact mem_collapse (Text.mem_lower inside steady) other
  rcases mem_of_mem_collapse member with letter | rfl
  · rw [spelled.lower_eq] at letter
    refine (spelled.small_or_separates c letter).resolve_right fun separates => ?_
    rw [other] at separates
    cases separates
  · cases other

-- No blank and no number sign is lost in a normal form, and the normal forms of names have none.
theorem plain_of_normalize (named : isName name' = true) (same : normalize name = normalize name') :
    ∀ c ∈ name.toList, Text.isBlank c = false ∧ c ≠ '#' := by
  intro c inside
  constructor
  · rw [Bool.eq_false_iff]
    intro blank
    have other : isSeparator c = false := by
      rw [Bool.eq_false_iff]
      intro separates
      simp only [isSeparator, Bool.or_eq_true, beq_iff_eq] at separates
      rcases separates with (rfl | rfl) | rfl <;> cases blank
    have small := isSmall_of_normalize named same inside (Text.isSteady_of_isBlank blank) other
    rw [small.isPinChar.visible] at blank
    cases blank
  · rintro rfl
    have steady : Text.IsSteady '#' := ⟨by decide, by decide, by decide⟩
    exact (isSmall_of_normalize named same inside steady (by decide)).isPinChar.ne.2.1 rfl

-- No longer text has the normal form of a name at its start.
theorem eq_of_normalize (named : isName name' = true) (same : normalize name = normalize name')
    (starts : name'.toList <+: name.toList) : name = name' := by
  have spelled : Spelling ['.', '_', '-'] name'.toList := isSpelling_name_iff.1 named
  obtain ⟨more, whole⟩ := starts
  obtain ⟨rest, lowered, kept⟩ := Text.lower_append_of_ascii spelled.isAscii more
  obtain ⟨init, last, ends, small⟩ := spelled.ends_small
  have equal : collapse (Text.lower name.toList) = collapse (Text.lower name'.toList) := String.ofList_injective same
  rw [← whole, lowered, spelled.lower_eq, collapse_append ⟨init, last, ends, small.not_isSeparator⟩] at equal
  have none : rest = [] := by
    by_contra filled
    exact collapse_ne_nil filled (by simpa using equal)
  rw [kept none, List.append_nil] at whole
  exact String.toList_inj.1 whole.symm

theorem isSpelling_of_ends {inner : Char → Bool} {first last : Char} (start : cs.head? = some first)
    (final : cs.getLast? = some last) (letter : first.isAlphanum = true) (letter' : last.isAlphanum = true)
    (all : ∀ c ∈ cs, inner c = true) : isSpelling inner cs = true := by
  simpa [isSpelling, start, final, letter, letter'] using all

end PackageName

namespace Requirement

variable {r : Requirement} {cs : List Char} {name version line : String}

theorem isSpelling_spanName (starts : startsWithName cs = true) :
    PackageName.isSpelling PackageName.isNameChar (spanName cs).1 = true := by
  obtain ⟨whole, letters⟩ := spanName_whole cs
  have letter : ∃ first rest, cs = first :: rest ∧ first.isAlphanum = true := by
    simp only [startsWithName, Bool.and_eq_true] at starts
    cases cs with
    | nil => cases starts.2
    | cons first rest => exact ⟨first, rest, rfl, by simpa using starts.2⟩
  obtain ⟨first, rest, rfl, letter⟩ := letter
  let isMark (c : Char) : Bool := !c.isAlphanum
  let run := (first :: rest).takeWhile PackageName.isNameChar
  have shape : (spanName (first :: rest)).1 = run.rdropWhile isMark := rfl
  have filled : run.rdropWhile isMark ≠ [] := by
    rw [Ne, List.rdropWhile_eq_nil_iff]
    intro all
    have inside : first ∈ run := by simp [run, PackageName.isNameChar, PackageName.isWheelNameChar, letter]
    have none := all first inside
    simp [isMark, letter] at none
  have last := List.rdropWhile_last_not isMark run filled
  rw [shape] at whole letters ⊢
  have start : (run.rdropWhile isMark).head? = some first := by
    obtain ⟨d, ds, split⟩ := List.exists_cons_of_ne_nil filled
    rw [split] at whole ⊢
    exact congrArg some (List.cons.inj whole).1.symm
  exact PackageName.isSpelling_of_ends start (List.getLast?_eq_some_getLast filled) letter (by simpa [isMark] using last) letters

theorem name_of_ofTrimmed (read : ofTrimmed cs = some r) : startsWithName cs = true ∧ r.name.toList = (spanName cs).1 := by
  rw [ofTrimmed_eq] at read
  split at read
  · rename_i starts
    refine ⟨starts, ?_⟩
    unfold ofRest at read
    simp only at read
    split at read
    · contradiction
    · rw [← Option.some.inj read, String.toList_ofList]
  · contradiction

theorem isName_of_parse? (read : parse? line = some r) : PackageName.isName r.name = true := by
  obtain ⟨starts, same⟩ := name_of_ofTrimmed read
  rw [PackageName.isName, same]
  exact isSpelling_spanName starts

-- A line without blanks and number signs is read as it stands.
theorem parse?_of_plain (plain : ∀ c ∈ line.toList, Text.isBlank c = false ∧ c ≠ '#') :
    parse? line = ofTrimmed line.toList := by
  have uncommented : stripComment line.toList = line.toList := by
    by_contra other
    have commented : hasComment line = true := by simpa [hasComment] using other
    exact (plain '#' (number_sign_mem_of_hasComment commented)).2 rfl
  rw [parse?, uncommented, Text.trim_eq_self fun c inside => (plain c inside).1]

theorem isPinChar_of_mem_condition (versioned : Archive.isVersion version.toList = true) {c : Char}
    (inside : c ∈ ("==" ++ version).toList) : IsPinChar c := by
  have member : c ∈ (pin "a" version).toList := by
    rw [pin, String.append_assoc, String.toList_append]
    exact List.mem_append_right _ inside
  exact isPinChar_of_mem_pin (by decide) versioned member

theorem mem_pin {c : Char} (inside : c ∈ (pin name version).toList) : c ∈ name.toList ∨ c ∈ ("==" ++ version).toList := by
  rwa [pin, String.append_assoc, String.toList_append, List.mem_append] at inside

/-- A pin that is read as a line about its own package has the name of a package. -/
theorem isName_of_parse?_pin (versioned : Archive.isVersion version.toList = true)
    (read : parse? (pin name version) = some r) (same : r.normalizedName = PackageName.normalize name) :
    PackageName.isName name = true := by
  have named := isName_of_parse? read
  have plain := PackageName.plain_of_normalize named same.symm
  have chars : ∀ c ∈ (pin name version).toList, Text.isBlank c = false ∧ c ≠ '#' := by
    intro c inside
    rcases mem_pin inside with first | later
    · exact plain c first
    · have made := isPinChar_of_mem_condition versioned later
      exact ⟨made.visible, made.ne.2.1⟩
  have equals : EndsName '=' := .inr (by decide)
  have shape : (pin name version).toList = name.toList ++ '=' :: ('=' :: version.toList) := by simp [pin]
  rw [parse?_of_plain chars] at read
  have starts : r.name.toList <+: name.toList := by
    rw [(name_of_ofTrimmed read).2, shape, spanName_append equals]
    exact ⟨_, (spanName_whole name.toList).1.symm⟩
  rw [PackageName.eq_of_normalize named same.symm starts]
  exact named

/-- Whether a pin is read as a requirement of its own package in just its version. -/
def ReadsBack (name version : String) : Prop :=
  ∃ r, parse? (pin name version) = some r ∧ r.normalizedName = PackageName.normalize name ∧
    r.specifier = "==" ++ version ∧ r.extras = none ∧ r.marker = none

theorem readsBack_iff (versioned : Archive.isVersion version.toList = true) :
    ReadsBack name version ↔ PackageName.isName name = true := by
  constructor
  · rintro ⟨r, read, same, _⟩
    exact isName_of_parse?_pin versioned read same
  · intro named
    exact ⟨_, parse?_pin named versioned, rfl, rfl, rfl, rfl⟩

end Requirement

end Wheelhouse
