import Wheelhouse.Proofs.Package.VersionText

/-!
Conditions that stand for a series of versions. `==2.1.*` accepts the texts that start with the text of the
series, which is less than the versions whose release numbers do; `~=2.1` compares release numbers, whatever
way they are written in, and lets every later epoch through.
-/

set_option autoImplicit false

namespace Wheelhouse

namespace Condition

-- A specifier that consists of one condition.
theorem isSatisfied_single {word : List Char} {operator : Operator} (operates : (word, operator) ∈ operators)
    {target : String} (isTarget : IsTarget target.toList) (version : String) :
    Specifier.isSatisfied (String.ofList word ++ target) version = (⟨operator, target⟩ : Condition).holds version := by
  have written : Specifier.Writes [⟨operator, target⟩] (String.ofList word ++ target) := by
    refine ⟨[word ++ target.toList], .cons ?_ .nil, by simp [Text.join]⟩
    have whole := @Writes.mk ⟨operator, target⟩ [] word [] [] Text.isPad_nil operates Text.isPad_nil Text.isPad_nil
    rwa [List.append_nil, List.nil_append, List.nil_append] at whole
  rw [Specifier.isSatisfied_eq written (by simpa using isTarget)]
  simp

end Condition

namespace Version

/-! ### Beginnings of texts -/

-- A run of digits and a point are found at the start of a text just if it starts with this very run.
theorem digits_point_prefix_iff {ds es xs ys : List Char} (digits : ∀ c ∈ ds, c.isDigit = true)
    (digits' : ∀ c ∈ es, c.isDigit = true) (ended : Avoids Char.isDigit ys) :
    ds ++ '.' :: xs <+: es ++ ys ↔ ds = es ∧ '.' :: xs <+: ys := by
  constructor
  · rintro ⟨more, whole⟩
    have read : Number.spanDigits (ds ++ '.' :: (xs ++ more)) = (ds, '.' :: (xs ++ more)) :=
      spanDigits_append digits (by simp)
    have split : ds ++ '.' :: (xs ++ more) = es ++ ys := by simpa using whole
    rw [split, spanDigits_append digits' ended, Prod.mk.injEq] at read
    exact ⟨read.1.symm, more, by simpa using read.2.symm⟩
  · rintro ⟨rfl, start⟩
    exact (List.prefix_append_right_inj ds).2 start

theorem toDigits_eq_text_iff {m : ℕ} {n : Figures} : Nat.toDigits 10 m = n.text ↔ m = n.value ∧ n.zeros = 0 := by
  constructor
  · intro same
    have value : m = n.value := by
      have read := congrArg Number.natOfDigits same
      rwa [n.natOfDigits_text, ← List.nil_append (Nat.toDigits 10 m), ← List.replicate_zero (a := '0'),
        Numeral.natOfDigits_zeros] at read
    have length := congrArg List.length same
    rw [Figures.text, ← value, List.length_append, List.length_replicate] at length
    exact ⟨value, by omega⟩
  · rintro ⟨rfl, none⟩
    simp [Figures.text, none]

-- The numbers of a series, each with a point after it.
def pointed (series : List ℕ) : List Char := series.flatMap fun m => Nat.toDigits 10 m ++ ['.']

theorem pointed_cons (m : ℕ) (series : List ℕ) : pointed (m :: series) = Nat.toDigits 10 m ++ '.' :: pointed series := by
  simp [pointed]

theorem isDigit_of_mem_toDigits {m : ℕ} : ∀ c ∈ Nat.toDigits 10 m, c.isDigit = true :=
  fun _ inside => Nat.isDigit_of_mem_toDigits (by decide) (by decide) inside

theorem exists_pointed_cons {series : List ℕ} (named : series ≠ []) :
    ∃ c cs, c.isDigit = true ∧ pointed series = c :: cs := by
  obtain ⟨m, series, rfl⟩ := List.exists_cons_of_ne_nil named
  obtain ⟨c, cs, run⟩ := List.exists_cons_of_ne_nil (Nat.toDigits_ne_nil (b := 10) (n := m))
  refine ⟨c, cs ++ '.' :: pointed series, isDigit_of_mem_toDigits (m := m) c (by simp [run]), ?_⟩
  rw [pointed_cons, run, List.cons_append]

-- No number follows a point where a release has ended.
theorem pointed_prefix_tail_iff {series : List ℕ} {tail : List Char} (ends : EndsRelease tail) :
    '.' :: pointed series <+: tail ↔ series = [] ∧ tail.head? = some '.' := by
  cases tail with
  | nil => simp
  | cons c tail =>
    rw [List.cons_prefix_cons, List.head?_cons, Option.some.injEq]
    constructor
    · rintro ⟨rfl, start⟩
      refine ⟨?_, rfl⟩
      by_contra named
      obtain ⟨d, ds, digit, run⟩ := exists_pointed_cons named
      obtain ⟨more, rfl⟩ := start
      have other := ends.pointed _ rfl
      rw [run, List.cons_append, avoids_cons, digit] at other
      cases other
    · rintro ⟨rfl, rfl⟩
      exact ⟨rfl, List.nil_prefix⟩

theorem pointed_prefix_iff {series : List ℕ} {release : List Figures} {tail : List Char} (named : series ≠ [])
    (filled : release ≠ []) (ends : EndsRelease tail) :
    pointed series <+: Text.join ['.'] (release.map Figures.text) ++ tail ↔
      (release.take series.length).map Figures.value = series ∧ (∀ n ∈ release.take series.length, n.zeros = 0) ∧
        (series.length < release.length ∨ series.length = release.length ∧ tail.head? = some '.') := by
  induction series generalizing release with
  | nil => exact absurd rfl named
  | cons m series ih =>
    obtain ⟨n, release, rfl⟩ := List.exists_cons_of_ne_nil filled
    have digits : ∀ c ∈ n.text, c.isDigit = true := fun c inside => n.isDigit_of_mem inside
    rw [pointed_cons]
    cases release with
    | nil =>
      rw [List.map_singleton, Text.join, digits_point_prefix_iff isDigit_of_mem_toDigits digits ends.ended,
        toDigits_eq_text_iff, pointed_prefix_tail_iff ends]
      cases series <;> simp [eq_comm, and_assoc]
    | cons k release =>
      rw [List.map_cons, List.map_cons, Text.join_cons_cons, List.append_assoc, List.append_assoc,
        digits_point_prefix_iff isDigit_of_mem_toDigits digits (by simp), toDigits_eq_text_iff, List.singleton_append,
        List.cons_prefix_cons]
      by_cases last : series = []
      · subst last
        simp [pointed, eq_comm]
      · have later := ih last (List.cons_ne_nil k release)
        rw [List.map_cons] at later
        rw [later]
        simp only [List.length_cons, List.take_succ_cons, List.map_cons, List.cons.injEq, List.forall_mem_cons]
        constructor
        · rintro ⟨⟨rfl, none⟩, -, rest, none', pointed⟩
          exact ⟨⟨rfl, rest⟩, ⟨none, none'⟩, pointed.imp (by omega) (And.imp_left (by omega))⟩
        · rintro ⟨⟨rfl, rest⟩, ⟨none, none'⟩, pointed⟩
          exact ⟨⟨rfl, none⟩, trivial, rest, none', pointed.imp (by omega) (And.imp_left (by omega))⟩

namespace Spelling

/-- Whether a release begins with some numbers; after its own it goes on with zeros. -/
def BeginsWith (s : Spelling) (series : List ℕ) : Prop := s.numbers.takeD series.length 0 = series

/-- Whether a text starts with some of the release numbers and a point after each, as they are usually written:
nothing stands before them, and none has zeros in front of it or is left out. -/
structure IsPlain (s : Spelling) (count : ℕ) : Prop where
  unmarked : s.mark = []
  withoutEpoch : s.epoch = none
  unpadded : ∀ n ∈ s.release.take count, n.zeros = 0
  pointed : count < s.release.length ∨ count = s.release.length ∧ s.tail.head? = some '.'

variable {s : Spelling} {series : List ℕ}

theorem pointed_prefix_chars_iff (named : series ≠ []) :
    pointed series <+: s.chars ↔ s.mark = [] ∧ s.epoch = none ∧ pointed series <+: s.releaseText ++ s.tail := by
  have unmarked {c : Char} (letter : c.isDigit = false) (cs : List Char) : ¬ pointed series <+: c :: cs := by
    intro start
    obtain ⟨d, ds, digit, run⟩ := exists_pointed_cons named
    rw [run, List.cons_prefix_cons] at start
    rw [start.1, letter] at digit
    cases digit
  have marked := s.marked
  simp only [List.mem_cons, List.not_mem_nil, or_false] at marked
  rcases marked with none | v | v
  · simp only [chars, epochText, none, List.nil_append, true_and]
    cases s.epoch with
    | none => simp
    | some n =>
      have digits : ∀ c ∈ n.text, c.isDigit = true := fun c inside => n.isDigit_of_mem inside
      obtain ⟨m, series, rfl⟩ := List.exists_cons_of_ne_nil named
      simp [pointed_cons, digits_point_prefix_iff isDigit_of_mem_toDigits digits]
  all_goals simp [chars, v, unmarked]

theorem pointed_prefix_iff (named : series ≠ []) :
    pointed series <+: s.chars ↔ s.BeginsWith series ∧ s.IsPlain series.length := by
  rw [pointed_prefix_chars_iff named, releaseText, Version.pointed_prefix_iff named s.filled s.isTail.ends]
  have enough (more : series.length < s.release.length ∨ series.length = s.release.length ∧ s.tail.head? = some '.') :
      s.BeginsWith series ↔ (s.release.take series.length).map Figures.value = series := by
    have within : series.length ≤ s.numbers.length := by
      rw [numbers, List.length_map]
      omega
    rw [BeginsWith, List.takeD_eq_take _ within, numbers, List.map_take]
  constructor
  · rintro ⟨mark, epoch, same, zeros, more⟩
    exact ⟨(enough more).2 same, mark, epoch, zeros, more⟩
  · rintro ⟨begins, mark, epoch, zeros, more⟩
    exact ⟨mark, epoch, (enough more).1 begins, zeros, more⟩

/-! ### Series by their text -/

/-- The target that stands for all versions whose release numbers begin with those of a series. -/
def seriesTarget (series : List ℕ) : String := Text.joined "." (series.map Nat.repr) ++ ".*"

theorem toList_seriesTarget (named : series ≠ []) : (seriesTarget series).toList = pointed series ++ ['*'] := by
  have joined : Text.join ['.'] (series.map (Nat.toDigits 10)) ++ ['.'] = pointed series := by
    rw [Text.join_append_sep (by simpa using named), List.flatMap_map, pointed]
  rw [← joined]
  simp [seriesTarget, Text.joined, Function.comp_def]

theorem isTarget_seriesTarget (named : series ≠ []) : Condition.IsTarget (seriesTarget series).toList := by
  have letters : ∀ c ∈ pointed series, Condition.isTargetChar c = true := by
    intro c inside
    obtain ⟨m, _, inside⟩ := List.mem_flatMap.1 inside
    rcases List.mem_append.1 inside with digit | point
    · exact isTargetChar_of_isDigit (isDigit_of_mem_toDigits c digit)
    · rw [List.mem_singleton.1 point]
      decide
  obtain ⟨c, cs, digit, start⟩ := exists_pointed_cons named
  rw [toList_seriesTarget named]
  have star : ∀ c ∈ ['*'], Text.isBlank c = false := List.forall_mem_singleton.2 (by decide)
  refine ⟨?_, List.forall_mem_append.2 ⟨fun c inside => Condition.visible_of_isTargetChar (letters c inside), star⟩, ?_⟩
  · rw [start, List.cons_append, List.head?_cons, ne_eq, Option.some.injEq]
    rintro rfl
    simp at digit
  · rw [List.mem_append, not_or]
    exact ⟨fun inside => absurd (letters ',' inside) (by decide), by decide⟩

theorem getLast?_pointed (named : series ≠ []) : (pointed series).getLast? = some '.' := by
  rw [← List.dropLast_append_getLast named, pointed, List.flatMap_append]
  simp

theorem isExactly_seriesTarget (named : series ≠ []) (s : Spelling) (label : Option (List Char)) :
    Condition.isExactly (s.text label) (seriesTarget series) = true ↔
      s.BeginsWith series ∧ s.IsPlain series.length := by
  have star : Text.dropEnding? ['*'] (seriesTarget series).toList = some (pointed series) :=
    Text.dropEnding?_eq_some_iff.2 (toList_seriesTarget named)
  rw [Condition.isExactly, star]
  simp only [getLast?_pointed named, if_true]
  rw [cut_text, List.isPrefixOf_iff_prefix, pointed_prefix_iff named]

/-- A text satisfies `==` with a series just if its epoch is zero, its release begins with the series and it is
written plainly up to there; it satisfies `!=` just if not. -/
theorem isSatisfied_series_iff (named : series ≠ []) (s : Spelling) (label : Option (List Char)) :
    (Specifier.isSatisfied ("==" ++ seriesTarget series) (s.text label) = true ↔
        s.epochNumber = 0 ∧ s.BeginsWith series ∧ s.IsPlain series.length) ∧
      Specifier.isSatisfied ("!=" ++ seriesTarget series) (s.text label) =
        !Specifier.isSatisfied ("==" ++ seriesTarget series) (s.text label) := by
  have equals : Specifier.isSatisfied ("==" ++ seriesTarget series) (s.text label) =
      Condition.isExactly (s.text label) (seriesTarget series) :=
    Condition.isSatisfied_single (by decide : (['=', '='], Operator.equals) ∈ Condition.operators)
      (isTarget_seriesTarget named) _
  have differs : Specifier.isSatisfied ("!=" ++ seriesTarget series) (s.text label) =
      !Condition.isExactly (s.text label) (seriesTarget series) :=
    Condition.isSatisfied_single (by decide : (['!', '='], Operator.differs) ∈ Condition.operators)
      (isTarget_seriesTarget named) _
  refine ⟨?_, by rw [differs, equals]⟩
  rw [equals, isExactly_seriesTarget named]
  have epoch (plain : s.IsPlain series.length) : s.epochNumber = 0 := by
    rw [epochNumber, plain.withoutEpoch, Option.elim_none]
  exact ⟨fun ⟨begins, plain⟩ => ⟨epoch plain, begins, plain⟩, And.right⟩

section Sample

def sampleDev : Spelling where
  mark := []
  epoch := none
  release := [⟨0, 2⟩, ⟨0, 0⟩]
  tail := ".dev".toList
  marked := by simp
  filled := by simp
  isTail := .missing (.missing (.present
    (@IsPart.mk _ ['.'] "dev".toList [] [] (by decide) (by decide) (by decide) (by simp))))

def sampleRelease (epoch : Option Figures) (release : List Figures) (filled : release ≠ []) : Spelling where
  mark := []
  epoch := epoch
  release := release
  tail := []
  marked := by simp
  filled := filled
  isTail := .missing (.missing .missing)

def sampleShort : Spelling := sampleRelease none [⟨0, 2⟩] (by simp)

theorem isSatisfied_series_iff_sample :
    Specifier.isSatisfied "==2.0.*" "2.0.dev+x" = true ∧ Specifier.isSatisfied "!=2.0.*" "2.0.dev+x" = false ∧
      sampleShort.BeginsWith [2, 0] ∧ Specifier.isSatisfied "==2.0.*" "2" = false := by
  have texts : "==" ++ seriesTarget [2, 0] = "==2.0.*" ∧ "!=" ++ seriesTarget [2, 0] = "!=2.0.*" ∧
      sampleDev.text (some ['x']) = "2.0.dev+x" ∧ sampleShort.text none = "2" := by decide +kernel
  obtain ⟨equals, differs, dev, short⟩ := texts
  have named : [2, 0] ≠ [] := by simp
  have plain : sampleDev.IsPlain 2 := ⟨rfl, rfl, by decide, .inr ⟨rfl, rfl⟩⟩
  obtain ⟨whole, others⟩ := isSatisfied_series_iff named sampleDev (some ['x'])
  obtain ⟨whole', -⟩ := isSatisfied_series_iff named sampleShort none
  rw [equals, dev] at whole others
  rw [differs] at others
  rw [equals, short] at whole'
  have found := whole.2 ⟨rfl, rfl, plain⟩
  refine ⟨found, by rw [others, found]; rfl, rfl, ?_⟩
  rw [← Bool.not_eq_true, whole']
  rintro ⟨-, -, plain⟩
  exact absurd plain.pointed (by decide)

end Sample

/-! ### Series by their numbers -/

theorem compareAll_take_iff (as series : List ℕ) :
    Numeral.compareAll ((as.map .finite).take series.length) (series.map .finite) = .eq ↔
      as.takeD series.length 0 = series := by
  induction series generalizing as with
  | nil => simp
  | cons m series ih =>
    cases as with
    | nil =>
      have rest := ih []
      simp only [List.map_nil, List.take_nil, Numeral.compareAll] at rest
      simp [Numeral.compareAll, Numeral.compareZeros, Numeral.zero, Numeral.compare, rest]
    | cons a as => simp [Numeral.compareAll, Numeral.compare, ih]

theorem isCompatible_text_iff {base : Spelling} (exact : s.IsExact) (exact' : base.IsExact)
    (label : Option (List Char)) : Condition.isCompatible (s.text label) (base.text none) = true ↔
      2 ≤ base.numbers.length ∧ compareTexts (s.text label) (base.text none) ≠ .lt ∧
        s.BeginsWith base.numbers.dropLast := by
  have release := (parse_text exact label).2
  have release' := (parse_text exact' none).2
  have series := compareAll_take_iff s.numbers base.numbers.dropLast
  rw [List.map_dropLast, List.length_dropLast] at series
  simp [Condition.isCompatible, release, release', BeginsWith, series, and_assoc]

-- A version with a greater epoch is greater whatever its release is.
theorem compareTexts_ne_lt_iff {base : Spelling} (exact : s.IsExact) (exact' : base.IsExact)
    (label : Option (List Char)) : compareTexts (s.text label) (base.text none) ≠ .lt ↔
      base.epochNumber < s.epochNumber ∨
        base.epochNumber = s.epochNumber ∧ compareTexts (s.text label) (base.text none) ≠ .lt := by
  have epoch := (parse_text exact label).1
  have epoch' := (parse_text exact' none).1
  rcases lt_trichotomy base.epochNumber s.epochNumber with less | same | greater
  · have order : compareTexts (s.text label) (base.text none) = .gt := by
      simp [compareTexts, compare, epoch, epoch', Numeral.compare, Nat.compare_eq_gt.2 less]
    simp [order, less]
  · simp [same]
  · have order : compareTexts (s.text label) (base.text none) = .lt := by
      simp [compareTexts, compare, epoch, epoch', Numeral.compare, Nat.compare_eq_lt.2 greater]
    simp [order, greater.le]

/-- A text satisfies `~=` with a base just if the base has two release numbers or more, its own release begins
with all of them but the last, and it has a greater epoch or else the same epoch and is not below the base. -/
theorem isSatisfied_compatible_iff {base : Spelling} (exact : s.IsExact) (exact' : base.IsExact)
    (label : Option (List Char)) :
    Specifier.isSatisfied ("~=" ++ base.text none) (s.text label) = true ↔
      2 ≤ base.numbers.length ∧ s.BeginsWith base.numbers.dropLast ∧
        (base.epochNumber < s.epochNumber ∨
          base.epochNumber = s.epochNumber ∧ compareTexts (s.text label) (base.text none) ≠ .lt) := by
  have compatible : Specifier.isSatisfied ("~=" ++ base.text none) (s.text label) =
      Condition.isCompatible (s.text label) (base.text none) :=
    Condition.isSatisfied_single (by decide : (['~', '='], Operator.compatible) ∈ Condition.operators)
      base.isBound.isTarget _
  rw [compatible, isCompatible_text_iff exact exact', ← compareTexts_ne_lt_iff exact exact',
    and_comm (a := compareTexts _ _ ≠ .lt)]

section Sample

def sampleEpoch : Spelling := sampleRelease (some ⟨0, 1⟩) [⟨0, 2⟩, ⟨0, 5⟩] (by simp)

def sampleBase : Spelling := sampleRelease none [⟨0, 2⟩, ⟨0, 1⟩] (by simp)

theorem isSatisfied_compatible_iff_sample : sampleEpoch.IsExact ∧ sampleBase.IsExact ∧
    Specifier.isSatisfied "~=2.1" "1!2.5" = true := by
  have exact : sampleEpoch.IsExact := ⟨by decide, by decide⟩
  have exact' : sampleBase.IsExact := ⟨by decide, by decide⟩
  have texts : "~=" ++ sampleBase.text none = "~=2.1" ∧ sampleEpoch.text none = "1!2.5" := by decide +kernel
  have whole := isSatisfied_compatible_iff exact exact' none
  rw [texts.1, texts.2] at whole
  exact ⟨exact, exact', whole.2 ⟨by decide, rfl, .inl (by decide)⟩⟩

end Sample

end Spelling

end Version

end Wheelhouse
