import Wheelhouse.Proofs.Package.PinLine
import Wheelhouse.Settings.Key

/-!
The texts that switch a flag on. Beyond ASCII only the sign for Kelvin has a small letter of ASCII, so it is
exactly the four words in any letter case, with any blanks around them.
-/

set_option autoImplicit false

namespace Wheelhouse

namespace Text

variable {c : Char} {cs word : List Char}

def IsForeign (c : Char) : Prop := 0x80 ≤ c.toNat ∨ c = 'k'

theorem toNat_ofNat {n : Nat} (valid : n.isValidChar) : (Char.ofNat n).toNat = n := by
  rw [Char.ofNat, dif_pos valid]
  exact UInt32.toNat_ofNatLT ..

theorem isForeign_lowerChar (foreign : 0x80 ≤ c.toNat) : IsForeign (lowerChar c) := by
  unfold lowerChar
  rw [if_neg (Nat.not_lt.2 foreign)]
  cases found : lowerCaseRuns.find? (·.covers c.toNat) with
  | none => exact .inl foreign
  | some r =>
    have images : (lowerCaseRuns.all fun r => (r.first == 8490 && r.last == 8490 && r.shift == -8383) ||
        (0x80 ≤ (r.first : Int) + r.shift && (r.last : Int) + r.shift < 0xD800) ||
        (0xE000 ≤ (r.first : Int) + r.shift && (r.last : Int) + r.shift < 0x110000)) = true := by decide +kernel
    have image := List.all_eq_true.1 images r (List.mem_of_find?_eq_some found)
    have covered := List.find?_some found
    simp only [CaseRun.covers, Bool.and_eq_true, decide_eq_true_eq] at covered
    simp only [Bool.or_eq_true, Bool.and_eq_true, decide_eq_true_eq, beq_iff_eq] at image
    simp only
    obtain ⟨⟨low, high⟩, _⟩ := covered
    rcases image with (⟨⟨first, last⟩, shift⟩ | ⟨above, below⟩) | ⟨above, below⟩
    · have kelvin : c.toNat = 8490 := by omega
      rw [kelvin, shift]
      exact .inr rfl
    · refine .inl ?_
      rw [toNat_ofNat (.inl (by omega))]
      omega
    · refine .inl ?_
      rw [toNat_ofNat (.inr ⟨by omega, by omega⟩)]
      omega

theorem exists_isForeign_lowerFrom (inWord : Bool) (inside : c ∈ cs) (foreign : 0x80 ≤ c.toNat) :
    ∃ d ∈ lowerFrom inWord cs, IsForeign d := by
  induction cs generalizing inWord with
  | nil => cases inside
  | cons b bs ih =>
    rw [lowerFrom]
    rcases List.mem_cons.1 inside with rfl | later
    · split
      · refine ⟨_, List.mem_cons_self, .inl ?_⟩
        split <;> decide
      · split
        · exact ⟨'\u0307', by simp, .inl (by decide)⟩
        · exact ⟨_, List.mem_cons_self, isForeign_lowerChar foreign⟩
    · obtain ⟨d, member, other⟩ := ih (if isCaseIgnorable b then inWord else isCased b) later
      split
      · exact ⟨d, List.mem_cons_of_mem _ member, other⟩
      · split
        · exact ⟨d, List.mem_cons_of_mem _ (List.mem_cons_of_mem _ member), other⟩
        · exact ⟨d, List.mem_cons_of_mem _ member, other⟩

-- A word without the letter k is the small form of its spellings in ASCII only.
theorem lower_eq_iff (plain : ∀ c ∈ word, ¬IsForeign c) : lower cs = word ↔ cs.map Char.toLower = word := by
  by_cases ascii : ∀ c ∈ cs, c.toNat < 0x80
  · rw [lower_of_ascii ascii]
  · simp only [not_forall, Nat.not_lt] at ascii
    obtain ⟨c, inside, foreign⟩ := ascii
    constructor
    · rintro rfl
      have whole : lower cs = lowerFrom false cs := if_neg fun all => by
        have small : c.toNat < 0x80 := by simpa using List.all_eq_true.1 all c inside
        omega
      obtain ⟨d, member, other⟩ := exists_isForeign_lowerFrom false inside foreign
      exact absurd other (plain d (whole ▸ member))
    · rintro rfl
      have kept : c.toLower = c := by
        apply dif_neg
        rw [ge_iff_le, UInt32.le_iff_toNat_le, UInt32.le_iff_toNat_le]
        change ¬(65 ≤ c.toNat ∧ c.toNat ≤ 90)
        omega
      exact absurd (.inl foreign) (plain c (List.mem_map.2 ⟨c, inside, kept⟩))

theorem exists_pad_trim (cs : List Char) :
    ∃ before after, IsPad before ∧ IsPad after ∧ cs = before ++ (trim cs ++ after) := by
  obtain ⟨after, last, whole⟩ := exists_trimEnd_append (cs.dropWhile isBlank)
  refine ⟨cs.takeWhile isBlank, after, fun c inside => List.mem_takeWhile_imp inside, last, ?_⟩
  rw [trim, ← whole, List.takeWhile_append_dropWhile]

end Text

namespace SettingValue

-- A word that switches a flag on, in any letter case and with blanks around it.
def SwitchesOn (cs : List Char) : Prop :=
  ∃ before word after, Text.IsPad before ∧ Text.IsPad after ∧ cs = before ++ (word ++ after) ∧
    String.ofList (word.map Char.toLower) ∈ ["1", "true", "yes", "on"]

theorem isTrue_iff {s : String} : isTrue s = true ↔ SwitchesOn s.toList := by
  have letters : (trueWords.all fun word =>
      word.toList.all fun c => c.toNat < 0x80 && c != 'k' && !Text.isBlank c) = true := by decide
  have plain {word : String} (listed : word ∈ trueWords) (c : Char) (inside : c ∈ word.toList) :
      ¬Text.IsForeign c ∧ Text.isBlank c = false := by
    have letter := List.all_eq_true.1 (List.all_eq_true.1 letters word listed) c inside
    simp only [Bool.and_eq_true, decide_eq_true_eq, bne_iff_ne, Bool.not_eq_true'] at letter
    exact ⟨not_or.2 ⟨Nat.not_le.2 letter.1.1, letter.1.2⟩, letter.2⟩
  have lower_iff {cs : List Char} {word : String} (listed : word ∈ trueWords) :
      String.ofList (Text.lower cs) = word ↔ String.ofList (cs.map Char.toLower) = word := by
    rw [← String.toList_inj, ← String.toList_inj, String.toList_ofList, String.toList_ofList]
    exact Text.lower_eq_iff fun c inside => (plain listed c inside).1
  rw [isTrue, List.contains_iff_mem]
  constructor
  · intro listed
    obtain ⟨before, after, first, last, whole⟩ := Text.exists_pad_trim s.toList
    refine ⟨before, _, after, first, last, whole, ?_⟩
    rwa [(lower_iff listed).1 rfl]
  · rintro ⟨before, word, after, first, last, whole, listed⟩
    have small := (lower_iff listed).2 rfl
    have visible : ∀ c ∈ word, Text.isBlank c = false := by
      intro c inside
      by_contra blank
      have steady := Text.isSteady_of_isBlank (Bool.not_eq_false _ ▸ blank)
      have member := Text.mem_lower inside steady
      rw [← String.toList_ofList (l := Text.lower word), small] at member
      exact blank (plain listed c member).2
    rw [whole, Text.trim_pad first last, Text.trim_eq_self visible, small]
    exact listed

end SettingValue

end Wheelhouse
