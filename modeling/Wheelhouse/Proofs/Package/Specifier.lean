import Mathlib.Order.Interval.Set.OrdConnected
import Wheelhouse.Package.Specifier
import Wheelhouse.Proofs.Package.VersionOrder
import Wheelhouse.Proofs.Text.Fields

/-!
What specifiers let through. A specifier is read as the conditions that it writes, whatever blanks stand
around operators and targets. A condition that compares with its target holds of the versions whose keys lie
in a range; the range of every such operator but `!=` has no gap, and so what a specifier of them lets through
has none.
-/

set_option autoImplicit false

namespace Wheelhouse

namespace Text

def IsPad (cs : List Char) : Prop := ∀ c ∈ cs, isBlank c = true

theorem isPad_nil : IsPad [] := by simp [IsPad]

theorem trim_pad {before after : List Char} (first : IsPad before) (last : IsPad after) (cs : List Char) :
    trim (before ++ (cs ++ after)) = trim cs := by
  have ended (ds : List Char) : trimEnd (ds ++ after) = trimEnd ds := by
    rw [trimEnd, List.reverse_append, List.dropWhile_append_of_pos fun c inside => last c (List.mem_reverse.1 inside),
      trimEnd]
  rw [trim, trim, List.dropWhile_append_of_pos first, List.dropWhile_append]
  split
  · rename_i blank
    have all : after.dropWhile isBlank = [] := List.dropWhile_eq_nil_iff.2 last
    rw [all, List.isEmpty_iff.1 blank]
  · rw [ended]

theorem exists_trimEnd_append (cs : List Char) : ∃ after, IsPad after ∧ cs = trimEnd cs ++ after := by
  refine ⟨(cs.reverse.takeWhile isBlank).reverse, fun c inside => ?_, ?_⟩
  · exact List.mem_takeWhile_imp (List.mem_reverse.1 inside)
  · rw [trimEnd, ← List.reverse_append, List.takeWhile_append_dropWhile, List.reverse_reverse]

theorem trim_trimEnd (cs : List Char) : trim (trimEnd cs) = trim cs := by
  obtain ⟨after, last, whole⟩ := exists_trimEnd_append cs
  have padded := trim_pad isPad_nil last (trimEnd cs)
  rwa [List.nil_append, ← whole, eq_comm] at padded

theorem trimEnd_prefix (cs : List Char) : trimEnd cs <+: cs := by
  obtain ⟨after, _, whole⟩ := exists_trimEnd_append cs
  exact ⟨after, whole.symm⟩

end Text

namespace Condition

/-- A target that is read as it is written: the operator cannot go on in it, and it does not end early. -/
structure IsTarget (cs : List Char) : Prop where
  start : cs.head? ≠ some '='
  visible : ∀ c ∈ cs, Text.isBlank c = false
  whole : ',' ∉ cs

/-- The texts of a condition: an operator and a target, with any blanks around them. -/
inductive Writes (c : Condition) : List Char → Prop
  | mk {before word between after : List Char} (first : Text.IsPad before)
      (operates : (word, c.operator) ∈ operators) (second : Text.IsPad between) (last : Text.IsPad after) :
      Writes c (before ++ ((word ++ (between ++ c.target.toList)) ++ after))

-- An operator is found where no longer one can be read.
theorem parse?_append {word rest : List Char} {operator : Operator} (operates : (word, operator) ∈ operators)
    (start : rest.head? ≠ some '=') : parse? (word ++ rest) = some ⟨operator, String.ofList (Text.trim rest)⟩ := by
  have longer : Text.dropBeginning? ['='] rest = none := by
    rw [Option.eq_none_iff_forall_ne_some]
    rintro left found
    rw [Text.dropBeginning?_eq_some_iff.1 found] at start
    exact start rfl
  simp only [operators, List.mem_cons, Prod.mk.injEq, List.not_mem_nil, or_false] at operates
  rcases operates with h | h | h | h | h | h | h | h <;> obtain ⟨rfl, rfl⟩ := h <;>
    simp [parse?, operators, Text.dropBeginning?, longer]

theorem visible_of_mem_operators {word : List Char} {operator : Operator} (operates : (word, operator) ∈ operators) :
    word ≠ [] ∧ (∀ c ∈ word, Text.isBlank c = false) ∧ ',' ∉ word := by
  have all : ∀ e ∈ operators, e.1 ≠ [] ∧ e.1.any Text.isBlank = false ∧ ',' ∉ e.1 := by decide
  obtain ⟨filled, visible, whole⟩ := all _ operates
  exact ⟨filled, by simpa using visible, whole⟩

namespace Writes

variable {c : Condition} {cs : List Char}

theorem parse?_trim (h : c.Writes cs) (target : IsTarget c.target.toList) :
    Text.trim cs ≠ [] ∧ parse? (Text.trim cs) = some c := by
  cases h with
  | @mk before word between after first operates second last =>
    obtain ⟨filled, visible, _⟩ := visible_of_mem_operators operates
    have trimmed : Text.trim (word ++ (between ++ c.target.toList)) =
        word ++ Text.trimEnd (between ++ c.target.toList) := by
      obtain ⟨d, ds, rfl⟩ := List.exists_cons_of_ne_nil filled
      rw [List.cons_append, Text.trim_cons (visible d (by simp)),
        Text.trimEnd_append fun c inside => visible c (by simp [inside]), List.cons_append]
    have start : (between ++ c.target.toList).head? ≠ some '=' := by
      cases between with
      | nil => exact target.start
      | cons b bs =>
        intro marked
        cases marked
        exact absurd (second '=' (by simp)) (by decide)
    have start' : (Text.trimEnd (between ++ c.target.toList)).head? ≠ some '=' := by
      intro marked
      obtain ⟨left, split⟩ := List.head?_eq_some_iff.1 marked
      obtain ⟨after, whole⟩ := Text.trimEnd_prefix (between ++ c.target.toList)
      rw [← whole, split] at start
      exact start rfl
    have read : Text.trim (Text.trimEnd (between ++ c.target.toList)) = c.target.toList := by
      have padded := Text.trim_pad second Text.isPad_nil c.target.toList
      rw [List.append_nil] at padded
      rw [Text.trim_trimEnd, padded, Text.trim_eq_self target.visible]
    rw [Text.trim_pad first last, trimmed]
    refine ⟨by simp [filled], ?_⟩
    rw [parse?_append operates start', read, String.ofList_toList]

theorem not_mem_comma (h : c.Writes cs) (target : IsTarget c.target.toList) : ',' ∉ cs := by
  cases h with
  | mk first operates second last =>
    have pad {ds : List Char} (blank : Text.IsPad ds) : ',' ∉ ds := fun inside => absurd (blank _ inside) (by decide)
    simp only [List.mem_append, not_or]
    exact ⟨pad first, ⟨(visible_of_mem_operators operates).2.2, pad second, target.whole⟩, pad last⟩

end Writes

end Condition

namespace Specifier

/-- The texts of a specifier: those of its conditions with commas between them. -/
def Writes (conditions : List Condition) (text : String) : Prop :=
  ∃ parts, List.Forall₂ Condition.Writes conditions parts ∧ text.toList = Text.join [','] parts

variable {conditions : List Condition} {text : String}

theorem parse_eq (h : Writes conditions text) (targets : ∀ c ∈ conditions, Condition.IsTarget c.target.toList) :
    parse text = conditions := by
  obtain ⟨written, each, joined⟩ := h
  have read : (((written.map Text.trim).filter fun part => !part.isEmpty).filterMap Condition.parse?) = conditions ∧
      ∀ part ∈ written, ',' ∉ part := by
    clear joined
    induction each with
    | nil => exact ⟨rfl, by simp⟩
    | @cons c part conditions written first others ih =>
      obtain ⟨target, later⟩ := List.forall_mem_cons.1 targets
      obtain ⟨filled, parsed⟩ := first.parse?_trim target
      obtain ⟨same, apart⟩ := ih later
      refine ⟨?_, List.forall_mem_cons.2 ⟨first.not_mem_comma target, apart⟩⟩
      simp [filled, parsed, same]
  by_cases none : written = []
  · subst none
    cases each
    rw [parse, parts, joined]
    rfl
  · rw [parse, parts, joined, Text.split_join none read.2, read.1]

theorem isSatisfied_eq (h : Writes conditions text)
    (targets : ∀ c ∈ conditions, Condition.IsTarget c.target.toList) (version : String) :
    isSatisfied text version = conditions.all fun c => c.holds version := by
  rw [isSatisfied, parse_eq h targets]

end Specifier

namespace Condition

def isTargetChar (c : Char) : Bool :=
  c.isAlphanum || c == '_' || c == '.' || c == '!' || c == '-'

theorem visible_of_isTargetChar {c : Char} (letter : isTargetChar c = true) : Text.isBlank c = false := by
  simp only [isTargetChar, Bool.or_eq_true, beq_iff_eq] at letter
  refine Requirement.IsPinChar.visible ?_
  rcases letter with (((letter | rfl) | rfl) | rfl) | rfl
  · exact .inl letter
  all_goals exact .inr (by simp)

/-- A version to compare with, which has no local label and is not the beginning of a series. -/
structure IsBound (target : String) : Prop where
  filled : target ≠ ""
  letters : ∀ c ∈ target.toList, isTargetChar c = true

namespace IsBound

variable {target : String}

theorem not_mem (h : IsBound target) {c : Char} (other : isTargetChar c = false) : c ∉ target.toList := by
  intro inside
  rw [h.letters c inside] at other
  cases other

theorem isTarget (h : IsBound target) : IsTarget target.toList :=
  ⟨fun start => h.not_mem (c := '=') rfl (List.mem_of_head? start),
    fun c inside => visible_of_isTargetChar (h.letters c inside), h.not_mem rfl⟩

theorem isExactly_eq (h : IsBound target) (version : String) :
    isExactly version target = (Version.compareTexts version target == .eq) := by
  have whole : Text.dropEnding? ['*'] target.toList = none := by
    rw [Option.eq_none_iff_forall_ne_some]
    intro stem found
    refine h.not_mem (c := '*') rfl ?_
    rw [Text.dropEnding?_eq_some_iff.1 found]
    simp
  have unlabelled : (Version.splitLocal target).2 = none := by
    simp [Version.splitLocal, Text.cut_of_not_mem (h.not_mem (c := '+') rfl)]
  rw [isExactly, whole]
  simp only [isExactly.compareOrSame, unlabelled]

end IsBound

end Condition

/-- The operators that leave no gap between versions that they accept. -/
def Operator.ordered : List Operator := [.atLeast, .atMost, .above, .below, .equals]

namespace Condition

variable {c : Condition}

-- The versions for which a condition holds, as a range of keys.
theorem exists_range (bound : IsBound c.target) (compares : c.operator ∈ Operator.differs :: Operator.ordered) :
    ∃ range : Set Version.Key, (c.operator ≠ .differs → range.OrdConnected) ∧
      ∀ version, c.holds version = true ↔ (Version.parse version).key ∈ range := by
  obtain ⟨operator, target⟩ := c
  have less (version : String) := Version.compareTexts_lt_iff (s := version) (t := target)
  have greater (version : String) :
      Version.compareTexts version target = .gt ↔ (Version.parse target).key < (Version.parse version).key := by
    rw [Version.compareTexts_eq_cmp, cmp_eq_gt_iff]
  have same (version : String) :
      Version.compareTexts version target = .eq ↔ (Version.parse version).key = (Version.parse target).key := by
    rw [Version.compareTexts_eq_cmp, cmp_eq_eq_iff]
  have exactly (version : String) := bound.isExactly_eq version
  generalize (Version.parse target).key = key at less greater same
  simp only [Operator.ordered, List.mem_cons, List.not_mem_nil, or_false] at compares
  rcases compares with rfl | rfl | rfl | rfl | rfl | rfl
  case inl => exact ⟨{key}ᶜ, by simp, fun version => by simp [holds, exactly, same]⟩
  case inr.inl => exact ⟨Set.Ici key, fun _ => Set.ordConnected_Ici, fun version => by simp [holds, less]⟩
  case inr.inr.inl => exact ⟨Set.Iic key, fun _ => Set.ordConnected_Iic, fun version => by simp [holds, greater]⟩
  case inr.inr.inr.inl => exact ⟨Set.Ioi key, fun _ => Set.ordConnected_Ioi, fun version => by simp [holds, greater]⟩
  case inr.inr.inr.inr.inl => exact ⟨Set.Iio key, fun _ => Set.ordConnected_Iio, fun version => by simp [holds, less]⟩
  case inr.inr.inr.inr.inr =>
    exact ⟨{key}, fun _ => Set.ordConnected_singleton, fun version => by simp [holds, exactly, same]⟩

end Condition

namespace Specifier

variable {conditions : List Condition} {text : String}

/-- A specifier of conditions that compare with versions. If none of them is `!=`, whatever stands between two
versions that satisfy it satisfies it, too; and in any case versions that compare equal satisfy it or not
together. -/
theorem isSatisfied_ordered (written : Writes conditions text)
    (ordered : ∀ c ∈ conditions, c.operator ∈ Operator.differs :: Operator.ordered ∧ Condition.IsBound c.target) :
    ((∀ c ∈ conditions, c.operator ≠ .differs) → ∀ low version high,
      (Version.compareTexts low version).isLE → (Version.compareTexts version high).isLE →
        isSatisfied text low = true → isSatisfied text high = true → isSatisfied text version = true) ∧
    ∀ version version', Version.compareTexts version version' = .eq →
      isSatisfied text version = isSatisfied text version' := by
  have satisfied (version : String) : isSatisfied text version = true ↔ ∀ c ∈ conditions, c.holds version = true := by
    rw [isSatisfied_eq written fun c inside => (ordered c inside).2.isTarget, List.all_eq_true]
  have range (c : Condition) (inside : c ∈ conditions) :=
    Condition.exists_range (ordered c inside).2 (ordered c inside).1
  constructor
  · intro closed low version high below above
    rw [Ordering.isLE_iff_ne_gt, ← ne_eq, Version.compareTexts_ne_gt_iff] at below above
    simp only [satisfied]
    intro first last c inside
    obtain ⟨keys, connected, holds⟩ := range c inside
    have between := (connected (closed c inside)).out ((holds low).1 (first c inside)) ((holds high).1 (last c inside))
    exact (holds version).2 (between ⟨below, above⟩)
  · intro version version' same
    rw [Version.compareTexts_eq_cmp, cmp_eq_eq_iff] at same
    rw [Bool.eq_iff_iff, satisfied, satisfied]
    refine forall₂_congr fun c inside => ?_
    obtain ⟨keys, _, holds⟩ := range c inside
    rw [holds, holds, same]

section Sample

def sampleConditions : List Condition := [⟨.atLeast, "1.0a1"⟩, ⟨.below, "2.0"⟩, ⟨.atMost, "v2!0"⟩]

theorem sampleConditions_written : Writes sampleConditions ">= 1.0a1 ,<2.0,\t<=v2!0" := by
  have nil : Text.IsPad [] := Text.isPad_nil
  have space : Text.IsPad [' '] := by simp [Text.IsPad, Text.isBlank]
  have tab : Text.IsPad ['\t'] := by simp [Text.IsPad, Text.isBlank]
  refine ⟨[">= 1.0a1 ".toList, "<2.0".toList, "\t<=v2!0".toList], .cons ?_ (.cons ?_ (.cons ?_ .nil)), rfl⟩
  · exact @Condition.Writes.mk ⟨.atLeast, "1.0a1"⟩ [] ['>', '='] [' '] [' '] nil (by decide) space space
  · exact @Condition.Writes.mk ⟨.below, "2.0"⟩ [] ['<'] [] [] nil (by decide) nil nil
  · exact @Condition.Writes.mk ⟨.atMost, "v2!0"⟩ ['\t'] ['<', '='] [] [] tab (by decide) nil nil

theorem isSatisfied_ordered_sample : isSatisfied ">= 1.0a1 ,<2.0,\t<=v2!0" "1.0-3" = true ∧
    isSatisfied ">= 1.0a1 ,<2.0,\t<=v2!0" "1.0rc1" = isSatisfied ">= 1.0a1 ,<2.0,\t<=v2!0" " 1.0.0C1+x" := by
  have ordered : ∀ c ∈ sampleConditions, c.operator ∈ Operator.differs :: Operator.ordered ∧
      Condition.IsBound c.target := by
    have all : ∀ c ∈ sampleConditions, c.operator ∈ Operator.differs :: Operator.ordered ∧ c.target ≠ "" ∧
        c.target.toList.all Condition.isTargetChar = true := by decide
    exact fun c inside => ⟨(all c inside).1, (all c inside).2.1, List.all_eq_true.1 (all c inside).2.2⟩
  obtain ⟨connected, same⟩ := isSatisfied_ordered sampleConditions_written ordered
  exact ⟨connected (by decide) "1.0a1" "1.0-3" "1.99" (by decide +kernel) (by decide +kernel) (by decide +kernel)
    (by decide +kernel), same "1.0rc1" " 1.0.0C1+x" (by decide +kernel)⟩

end Sample

end Specifier

end Wheelhouse
