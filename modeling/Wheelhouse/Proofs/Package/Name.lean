import Mathlib.Data.List.Basic
import Wheelhouse.Proofs.Package.Requirement

/-!
Names of packages. A name starts and ends with a letter or digit; its normal form is made of runs of small
letters and digits with one hyphen between neighbours.
-/

set_option autoImplicit false

namespace Wheelhouse.PackageName

/-- The texts that are a letter or digit, or start and end with one and have only letters, digits and some
extra characters in between. -/
inductive Spelling (extra : List Char) : List Char → Prop
  | single {c : Char} (letter : c.isAlphanum = true) : Spelling extra [c]
  | longer {first last : Char} {middle : List Char} (starts : first.isAlphanum = true)
      (inner : ∀ c ∈ middle, c.isAlphanum = true ∨ c ∈ extra) (ends : last.isAlphanum = true) :
      Spelling extra (first :: (middle ++ [last]))

theorem isSpelling_iff {inner : Char → Bool} {extra cs : List Char}
    (same : ∀ c, inner c = true ↔ c.isAlphanum = true ∨ c ∈ extra) :
    isSpelling inner cs = true ↔ Spelling extra cs := by
  constructor
  · intro spelled
    obtain ⟨⟨first, rest, rfl, starts⟩, ⟨init, last, whole, ends⟩, letters⟩ := of_isSpelling spelled
    cases init with
    | nil =>
      cases whole
      exact .single starts
    | cons c middle =>
      obtain ⟨rfl, rfl⟩ := List.cons.inj whole
      exact .longer starts (fun c inside => (same c).1 (letters c (by simp [inside]))) ends
  · rintro (letter | ⟨starts, between, ends⟩)
    · simp [isSpelling, letter, (same _).2 (.inl letter)]
    · simp only [isSpelling, List.head?_cons, List.getLast?_cons, List.getLast?_concat, Option.getD_some, starts, ends,
        Bool.and_true, Bool.true_and, List.all_cons, List.all_append, List.all_nil, (same _).2 (.inl starts),
        (same _).2 (.inl ends), List.all_eq_true]
      exact fun c inside => (same c).2 (between c inside)

theorem isSpelling_wheel_iff {cs : List Char} : isSpelling isWheelNameChar cs = true ↔ Spelling ['.', '_'] cs :=
  isSpelling_iff fun c => by simp [isWheelNameChar, or_assoc]

theorem isSpelling_name_iff {cs : List Char} : isSpelling isNameChar cs = true ↔ Spelling ['.', '_', '-'] cs :=
  isSpelling_iff fun c => by simp [isNameChar, isWheelNameChar, or_assoc]

namespace Spelling

variable {extra cs : List Char}

theorem mem (spelled : Spelling extra cs) : ∀ c ∈ cs, c.isAlphanum = true ∨ c ∈ extra := by
  intro c inside
  cases spelled with
  | single letter => exact .inl (List.mem_singleton.1 inside ▸ letter)
  | longer starts inner ends =>
    simp only [List.mem_cons, List.mem_append, List.not_mem_nil, or_false] at inside
    rcases inside with rfl | inside | rfl
    · exact .inl starts
    · exact inner c inside
    · exact .inl ends

theorem ends (spelled : Spelling extra cs) : ∃ init last, cs = init ++ [last] ∧ last.isAlphanum = true := by
  cases spelled with
  | single letter => exact ⟨[], _, rfl, letter⟩
  | longer _ _ ends => exact ⟨_, _, (List.cons_append ..).symm, ends⟩

theorem starts (spelled : Spelling extra cs) : ∃ first rest, cs = first :: rest ∧ first.isAlphanum = true := by
  cases spelled with
  | single letter => exact ⟨_, _, rfl, letter⟩
  | longer starts _ _ => exact ⟨_, _, rfl, starts⟩

theorem mono {more : List Char} (spelled : Spelling extra cs) (wider : extra ⊆ more) : Spelling more cs := by
  cases spelled with
  | single letter => exact .single letter
  | longer starts inner ends => exact .longer starts (fun c inside => (inner c inside).imp_right (@wider c)) ends

end Spelling

/-- The characters of a normal form that are no hyphens. -/
def IsSmall (c : Char) : Prop := c.isLower = true ∨ c.isDigit = true

theorem isSmall_toLower {c : Char} (letter : c.isAlphanum = true) : IsSmall c.toLower := by
  have codes : ∀ n < 128, (Char.ofNat n).isAlphanum = true →
      (Char.ofNat n).toLower.isLower = true ∨ (Char.ofNat n).toLower.isDigit = true := by decide
  have low := (Requirement.isPinChar_of_isNameChar (c := c) (by simp [isNameChar, isWheelNameChar, letter])).toNat
  have known := codes c.toNat (by omega)
  rw [Char.ofNat_toNat] at known
  exact known letter

theorem toLower_separator {c : Char} (separates : isSeparator c = true) : isSeparator c.toLower = true := by
  simp only [isSeparator, Bool.or_eq_true, beq_iff_eq] at separates
  rcases separates with (rfl | rfl) | rfl <;> decide

theorem IsSmall.not_isSeparator {c : Char} (small : IsSmall c) : isSeparator c = false := by
  cases separates : isSeparator c with
  | false => rfl
  | true =>
    simp only [isSeparator, Bool.or_eq_true, beq_iff_eq] at separates
    unfold IsSmall at small
    rcases separates with (rfl | rfl) | rfl <;> revert small <;> decide

/-- Runs of small letters and digits, none of them empty. -/
def AreRuns (runs : List (List Char)) : Prop := runs ≠ [] ∧ ∀ run ∈ runs, run ≠ [] ∧ ∀ c ∈ run, IsSmall c

/-- Whether a name is in normal form: its runs have one hyphen between neighbours. -/
def IsNormal (name : String) : Prop := ∃ runs, AreRuns runs ∧ name.toList = Text.join ['-'] runs

theorem collapse_cons_of_isSmall {c : Char} (small : IsSmall c) (cs : List Char) :
    collapse (c :: cs) = c :: collapse cs := by
  rw [collapse, if_neg (by simp [small.not_isSeparator])]

-- After a separator the others of its run are dropped, and it becomes a hyphen.
theorem collapse_cons_of_isSeparator {c : Char} (separates : isSeparator c = true) {cs rest : List Char}
    (collapsed : collapse cs = rest ∧ rest.head? ≠ some '-' ∨ collapse cs = '-' :: rest) :
    collapse (c :: cs) = '-' :: rest := by
  rw [collapse, if_pos separates]
  rcases collapsed with ⟨same, other⟩ | same
  · rw [same]
    cases rest with
    | nil => rfl
    | cons d rest =>
      have differs : d ≠ '-' := by simpa using other
      split
      · rename_i hyphen
        exact absurd (List.cons.inj hyphen).1 differs
      · rfl
  · rw [same]
    rfl

theorem collapse_ne_nil {cs : List Char} (filled : cs ≠ []) : collapse cs ≠ [] := by
  obtain ⟨c, cs, rfl⟩ := List.exists_cons_of_ne_nil filled
  rw [collapse]
  split
  · split <;> simp
  · simp

-- No run of separators goes on beyond a character that is none.
theorem collapse_append {cs : List Char} (ends : ∃ init last, cs = init ++ [last] ∧ isSeparator last = false)
    (ds : List Char) : collapse (cs ++ ds) = collapse cs ++ collapse ds := by
  obtain ⟨init, last, rfl, other⟩ := ends
  induction init with
  | nil => simp [collapse, other]
  | cons c init ih =>
    have filled : init ++ [last] ≠ [] := by simp
    obtain ⟨d, rest, whole⟩ := List.exists_cons_of_ne_nil (collapse_ne_nil filled)
    have step : collapse (init ++ [last] ++ ds) = d :: (rest ++ collapse ds) := by rw [ih, whole, List.cons_append]
    rw [List.cons_append, List.cons_append, collapse, collapse, step, whole]
    split
    · by_cases hyphen : d = '-' <;> simp [hyphen]
    · rfl

namespace AreRuns

variable {runs : List (List Char)} {c : Char}

theorem head?_join (h : AreRuns runs) : (Text.join ['-'] runs).head? ≠ some '-' := by
  obtain ⟨filled, each⟩ := h
  obtain ⟨run, rest, rfl⟩ := List.exists_cons_of_ne_nil filled
  obtain ⟨some, small⟩ := each run (by simp)
  obtain ⟨c, run, rfl⟩ := List.exists_cons_of_ne_nil some
  have other : c ≠ '-' := by
    rintro rfl
    exact absurd (small '-' (by simp)).not_isSeparator (by decide)
  cases rest <;> simpa [Text.join] using other

theorem join_ne_nil (h : AreRuns runs) : Text.join ['-'] runs ≠ [] := by
  obtain ⟨filled, each⟩ := h
  obtain ⟨run, rest, rfl⟩ := List.exists_cons_of_ne_nil filled
  obtain ⟨c, run, rfl⟩ := List.exists_cons_of_ne_nil (each run (by simp)).1
  cases rest <;> simp [Text.join]

theorem single (small : IsSmall c) : AreRuns [[c]] := ⟨by simp, by simpa using small⟩

-- A run of one character before the others.
theorem before (h : AreRuns runs) (small : IsSmall c) :
    AreRuns ([c] :: runs) ∧ Text.join ['-'] ([c] :: runs) = c :: '-' :: Text.join ['-'] runs := by
  refine ⟨⟨by simp, ?_⟩, ?_⟩
  · rintro run (_ | ⟨_, inside⟩)
    · simpa using small
    · exact h.2 run inside
  · obtain ⟨run, rest, rfl⟩ := List.exists_cons_of_ne_nil h.1
    simp [Text.join_cons_cons]

-- One more character in the first run.
theorem longer (h : AreRuns runs) (small : IsSmall c) :
    ∃ runs', AreRuns runs' ∧ Text.join ['-'] runs' = c :: Text.join ['-'] runs := by
  obtain ⟨run, rest, rfl⟩ := List.exists_cons_of_ne_nil h.1
  refine ⟨(c :: run) :: rest, ⟨by simp, ?_⟩, by cases rest <;> simp [Text.join]⟩
  rintro other (_ | ⟨_, inside⟩)
  · refine ⟨by simp, ?_⟩
    rintro e (_ | ⟨_, inside⟩)
    · exact small
    · exact (h.2 run (by simp)).2 e inside
  · exact h.2 other (List.mem_cons_of_mem _ inside)

end AreRuns

-- The separators at the start of a text become one hyphen, which stands before the runs.
theorem collapse_eq_runs {cs : List Char} (chars : ∀ c ∈ cs, IsSmall c ∨ isSeparator c = true)
    (ends : ∃ init last, cs = init ++ [last] ∧ IsSmall last) :
    ∃ runs, AreRuns runs ∧
      collapse cs = if cs.head?.any isSeparator then '-' :: Text.join ['-'] runs else Text.join ['-'] runs := by
  induction cs with
  | nil =>
    obtain ⟨init, last, whole, _⟩ := ends
    simp at whole
  | cons c cs ih =>
    rcases List.eq_nil_or_concat cs with rfl | ⟨init, last, whole⟩
    · obtain ⟨init, last, whole, small⟩ := ends
      cases init with
      | cons d init => simp at whole
      | nil =>
        cases whole
        exact ⟨[[c]], .single small, by simp [small.not_isSeparator, collapse, Text.join]⟩
    · rw [List.concat_eq_append] at whole
      have small : IsSmall last := by
        obtain ⟨init', last', whole', small⟩ := ends
        rw [whole, ← List.cons_append] at whole'
        exact (List.cons.inj (List.append_inj' whole' rfl).2).1 ▸ small
      obtain ⟨runs, areRuns, collapsed⟩ :=
        ih (fun d inside => chars d (List.mem_cons_of_mem _ inside)) ⟨init, last, whole, small⟩
      rcases chars c (by simp) with letter | separates
      · by_cases next : cs.head?.any isSeparator = true
        · obtain ⟨areRuns', joined⟩ := areRuns.before letter
          exact ⟨_, areRuns', by
            simp [collapse_cons_of_isSmall letter, letter.not_isSeparator, collapsed, next, joined]⟩
        · obtain ⟨runs', areRuns', joined⟩ := areRuns.longer letter
          exact ⟨runs', areRuns', by
            simp [collapse_cons_of_isSmall letter, letter.not_isSeparator, collapsed, next, joined]⟩
      · have known : collapse cs = Text.join ['-'] runs ∧ (Text.join ['-'] runs).head? ≠ some '-' ∨
            collapse cs = '-' :: Text.join ['-'] runs := by
          split at collapsed
          · exact .inr collapsed
          · exact .inl ⟨collapsed, areRuns.head?_join⟩
        exact ⟨runs, areRuns, by simp [collapse_cons_of_isSeparator separates known, separates]⟩

namespace Spelling

variable {cs : List Char}

theorem isAscii (spelled : Spelling ['.', '_', '-'] cs) : ∀ c ∈ cs, c.toNat < 128 := by
  intro c inside
  have named : isNameChar c = true := by
    simpa [isNameChar, isWheelNameChar, or_assoc] using spelled.mem c inside
  have codes := (Requirement.isPinChar_of_isNameChar named).toNat
  omega

theorem lower_eq (spelled : Spelling ['.', '_', '-'] cs) : Text.lower cs = cs.map Char.toLower :=
  Text.lower_of_ascii spelled.isAscii

theorem small_or_separates (spelled : Spelling ['.', '_', '-'] cs) :
    ∀ c ∈ cs.map Char.toLower, IsSmall c ∨ isSeparator c = true := by
  intro c inside
  obtain ⟨d, member, rfl⟩ := List.mem_map.1 inside
  rcases spelled.mem d member with letter | extra
  · exact .inl (isSmall_toLower letter)
  · refine .inr (toLower_separator ?_)
    simp only [List.mem_cons, List.not_mem_nil, or_false] at extra
    rcases extra with rfl | rfl | rfl <;> decide

theorem ends_small {extra : List Char} (spelled : Spelling extra cs) :
    ∃ init last, cs.map Char.toLower = init ++ [last] ∧ IsSmall last := by
  obtain ⟨init, last, whole, letter⟩ := spelled.ends
  exact ⟨init.map Char.toLower, last.toLower, by simp [whole], isSmall_toLower letter⟩

end Spelling

theorem isNormal_normalize {name : String} (spelled : Spelling ['.', '_', '-'] name.toList) :
    IsNormal (normalize name) := by
  obtain ⟨runs, areRuns, collapsed⟩ := collapse_eq_runs spelled.small_or_separates spelled.ends_small
  refine ⟨runs, areRuns, ?_⟩
  obtain ⟨first, rest, whole, letter⟩ := spelled.starts
  rw [normalize, spelled.lower_eq, collapsed, String.toList_ofList]
  simp [whole, (isSmall_toLower letter).not_isSeparator]

-- What stands before the first hyphen of a name is also before a hyphen of its normal form.
theorem normalize_of_hyphen {first more : String} (spelled : Spelling ['.', '_', '-'] (first ++ "-" ++ more).toList)
    (start : Spelling ['.', '_'] first.toList) :
    ∃ rest, rest ≠ "" ∧ normalize (first ++ "-" ++ more) = normalize first ++ "-" ++ rest := by
  have whole : (first ++ "-" ++ more).toList = first.toList ++ '-' :: more.toList := by simp
  obtain ⟨init, last, ending, small⟩ := spelled.ends_small
  have chars := spelled.small_or_separates
  rw [whole, List.map_append, List.map_cons] at ending chars
  have after : ∃ init last, '-'.toLower :: more.toList.map Char.toLower = init ++ [last] ∧ IsSmall last := by
    rcases List.eq_nil_or_concat (more.toList.map Char.toLower) with none | ⟨init', last', tail⟩
    · rw [none] at ending
      obtain rfl := List.singleton_inj.1 (List.append_inj' ending rfl).2
      exact absurd small.not_isSeparator (by decide)
    · rw [tail, List.concat_eq_append, ← List.cons_append, ← List.append_assoc] at ending
      obtain rfl := List.singleton_inj.1 (List.append_inj' ending rfl).2
      exact ⟨'-'.toLower :: init', last', by rw [tail, List.concat_eq_append, List.cons_append], small⟩
  obtain ⟨runs, areRuns, collapsed⟩ :=
    collapse_eq_runs (fun c inside => chars c (List.mem_append_right _ inside)) after
  obtain ⟨init, last, before, letter⟩ := start.ends_small
  refine ⟨String.ofList (Text.join ['-'] runs), ?_, ?_⟩
  · simpa using areRuns.join_ne_nil
  · have joined := collapse_append ⟨init, last, before, letter.not_isSeparator⟩ ('-'.toLower :: more.toList.map Char.toLower)
    rw [collapsed] at joined
    rw [normalize, normalize, spelled.lower_eq, (start.mono (by simp)).lower_eq, whole,
      List.map_append, List.map_cons, joined, ← String.toList_inj]
    simp [show isSeparator '-' = true by decide]

end Wheelhouse.PackageName
