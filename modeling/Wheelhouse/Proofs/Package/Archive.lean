import Mathlib.Data.List.Basic
import Wheelhouse.Package.Archive

/-!
What is known of a file name that describes an archive: the archive keeps it, its version is written with
the characters of versions, and it has the ending of an archive in any letter case.
-/

set_option autoImplicit false

namespace Wheelhouse

namespace Text

theorem lowerFrom_append_ascii {ending : List Char} (ascii : ∀ c ∈ ending, c.toNat < 0x80) (inWord : Bool)
    (cs : List Char) : ∃ before, lowerFrom inWord (cs ++ ending) = before ++ ending.map Char.toLower := by
  induction cs generalizing inWord with
  | nil =>
    refine ⟨[], ?_⟩
    induction ending generalizing inWord with
    | nil => rfl
    | cons c rest ih =>
      have low := ascii c (by simp)
      have others : c ≠ 'Σ' ∧ c ≠ 'İ' := by
        constructor <;>
        · rintro rfl
          simp at low
      have rest := ih (fun d inside => ascii d (by simp [inside])) (if isCaseIgnorable c then inWord else isCased c)
      simp only [List.nil_append] at rest ⊢
      simp [lowerFrom, others, lowerChar, low, rest]
  | cons c cs ih =>
    obtain ⟨before, same⟩ := ih (if isCaseIgnorable c then inWord else isCased c)
    rw [List.cons_append, lowerFrom, same]
    by_cases sigma : (c == 'Σ') = true
    · exact ⟨(if inWord && !nextIsCased (cs ++ ending) then 'ς' else 'σ') :: before, by simp [sigma]⟩
    · by_cases dotted : (c == 'İ') = true
      · exact ⟨'i' :: '\u0307' :: before, by simp [sigma, dotted]⟩
      · exact ⟨lowerChar c :: before, by simp [sigma, dotted]⟩

-- An ending in small letters stays when a text is put into small letters.
theorem isSuffixOf_lower {ending cs : List Char} (ascii : ∀ c ∈ ending, c.toNat < 0x80)
    (small : ending.map Char.toLower = ending) (ends : ending <:+ cs) : ending <:+ lower cs := by
  obtain ⟨before, rfl⟩ := ends
  unfold lower
  split
  · rw [List.map_append, small]
    exact List.suffix_append _ _
  · obtain ⟨start, same⟩ := lowerFrom_append_ascii ascii false before
    rw [same, small]
    exact List.suffix_append _ _

theorem suffix_of_dropEnding? {ending cs stem : List Char} (dropped : dropEnding? ending cs = some stem) :
    ending <:+ cs := by
  unfold dropEnding? at dropped
  split at dropped
  · rename_i ends
    exact List.isSuffixOf_iff_suffix.1 ends
  · cases dropped

end Text

theorem PackageName.ne_nil_of_isSpelling {inner : Char → Bool} {cs : List Char}
    (spelled : isSpelling inner cs = true) : cs ≠ [] := by
  rintro rfl
  cases spelled

namespace Archive

variable {f : String} {a : Archive}

-- What the fields of an archive have in common, however its file name is written.
def IsOf (a : Archive) (f : String) : Prop :=
  a.filename = f ∧ a.name ≠ "" ∧ isVersion a.version.toList = true

theorem isOf_of_make {name version : List Char} {build : Option (List Char)} {python abi platform : List Char}
    (made : ofFields.make f name version build python abi platform = some a) : a.IsOf f := by
  unfold ofFields.make at made
  split at made
  · rename_i formed
    cases made
    simp only [Bool.and_eq_true] at formed
    exact ⟨rfl, by simpa using PackageName.ne_nil_of_isSpelling formed.1.1.1.1, by simpa using formed.1.1.1.2⟩
  · cases made

theorem isOf_of_ofFields {fields : List (List Char)} (made : ofFields f fields = some a) : a.IsOf f := by
  unfold ofFields at made
  split at made
  · exact isOf_of_make made
  · split at made
    · exact isOf_of_make made
    · cases made
  · cases made

theorem isOf_of_ofStem {stem : List Char} (made : ofStem f stem = some a) : a.IsOf f := by
  unfold ofStem at made
  split at made
  · cases made
  · split at made
    · rename_i formed
      cases made
      simp only [Bool.and_eq_true] at formed
      exact ⟨rfl, by simpa using PackageName.ne_nil_of_isSpelling formed.1.1, by simpa using formed.2⟩
    · cases made

theorem parse_cases (parsed : parse f = .ok a) :
    (∃ stem, Text.dropEnding? wheelEnding f.toList = some stem ∧ ofFields f (Text.split (· == '-') stem) = some a) ∨
      ∃ ending ∈ sdistEndings, ∃ stem, Text.dropEnding? ending f.toList = some stem ∧ ofStem f stem = some a := by
  unfold parse at parsed
  split at parsed
  · rename_i stem wheel
    split at parsed
    · rename_i made
      cases parsed
      exact .inl ⟨stem, wheel, made⟩
    · cases parsed
  · split at parsed
    · rename_i made
      cases parsed
      obtain ⟨stem, found, made⟩ := Option.bind_eq_some_iff.1 made
      obtain ⟨ending, inside, dropped⟩ := List.exists_of_findSome?_eq_some found
      exact .inr ⟨ending, inside, stem, dropped, made⟩
    · cases parsed

theorem isOf_of_parse (parsed : parse f = .ok a) : a.IsOf f := by
  rcases parse_cases parsed with ⟨_, _, made⟩ | ⟨_, _, _, _, made⟩
  · exact isOf_of_ofFields made
  · exact isOf_of_ofStem made

theorem parse?_eq_some_iff : parse? f = some a ↔ parse f = .ok a := by
  unfold parse?
  cases parse f <;> simp [Except.toOption]

theorem of_parse? (found : parse? f = some a) : a.filename = f ∧ a.name ≠ "" := by
  obtain ⟨file, name, _⟩ := isOf_of_parse (parse?_eq_some_iff.1 found)
  exact ⟨file, name⟩

theorem hasExtension_of_parse (parsed : parse f = .ok a) : hasExtension f = true := by
  have plain : ∀ ending ∈ wheelEnding :: sdistEndings,
      (∀ c ∈ ending, c.toNat < 0x80) ∧ ending.map Char.toLower = ending := by
    simp [wheelEnding, sdistEndings]
  have ends : ∃ ending ∈ wheelEnding :: sdistEndings, ending <:+ f.toList := by
    rcases parse_cases parsed with ⟨_, dropped, _⟩ | ⟨ending, inside, _, dropped, _⟩
    · exact ⟨wheelEnding, by simp, Text.suffix_of_dropEnding? dropped⟩
    · exact ⟨ending, by simp [inside], Text.suffix_of_dropEnding? dropped⟩
  obtain ⟨ending, inside, ends⟩ := ends
  obtain ⟨ascii, small⟩ := plain ending inside
  rw [hasExtension, List.any_eq_true]
  exact ⟨ending, inside, List.isSuffixOf_iff_suffix.2 (Text.isSuffixOf_lower ascii small ends)⟩

end Archive

end Wheelhouse
