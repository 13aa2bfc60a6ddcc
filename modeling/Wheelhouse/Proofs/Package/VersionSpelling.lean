import Mathlib.Algebra.Group.Nat.Defs
import Mathlib.Data.List.TakeDrop
import Wheelhouse.Proofs.Number.Decimal
import Wheelhouse.Proofs.Package.Specifier

/-!
The spellings of a version. `Version.Spells` is the grammar of public versions with every number written
out: a `v` or none, the epoch, the release, words of any letter case for the other parts, separators
around them, zeros before numbers, and a local label or none. Every spelling is read back as the version
it spells, so spellings compare as the keys of their versions do.
-/

set_option autoImplicit false

namespace Wheelhouse

-- The digits of a number after any zeros.
def Numeral.Spells (n : Numeral) (cs : List Char) : Prop :=
  ∃ m zeros, m < 2 ^ 53 ∧ n = .finite m ∧ cs = List.replicate zeros '0' ++ Nat.toDigits 10 m

namespace Numeral

variable {n : Numeral} {cs : List Char}

theorem Spells.digits (h : n.Spells cs) : ∀ c ∈ cs, c.isDigit = true := by
  obtain ⟨m, zeros, _, _, rfl⟩ := h
  intro c inside
  rcases List.mem_append.1 inside with zero | digit
  · rw [List.eq_of_mem_replicate zero]
    decide
  · exact Nat.isDigit_of_mem_toDigits (by decide) (by decide) digit

theorem Spells.exists_cons (h : n.Spells cs) : ∃ c ds, c.isDigit = true ∧ cs = c :: ds := by
  have digits := h.digits
  cases cs with
  | nil =>
    obtain ⟨m, zeros, _, _, empty⟩ := h
    have filled : Nat.toDigits 10 m ≠ [] := Nat.toDigits_ne_nil
    simp [filled] at empty
  | cons c ds => exact ⟨c, ds, digits c (by simp), rfl⟩

theorem Spells.avoids (h : n.Spells cs) {p : Char → Bool} (apart : ∀ c, c.isDigit = true → p c = false)
    (rest : List Char) : Avoids p (cs ++ rest) := by
  obtain ⟨c, ds, digit, rfl⟩ := h.exists_cons
  simpa using apart c digit

-- Zeros before a number do not change it.
theorem natOfDigits_zeros (zeros m : ℕ) :
    Number.natOfDigits (List.replicate zeros '0' ++ Nat.toDigits 10 m) = m := by
  rw [Number.natOfDigits_append, Number.natOfDigits_replicate_zero, Number.natOfDigits_toDigits, zero_mul, zero_add]

theorem Spells.ofDigits_eq (h : n.Spells cs) : ofDigits cs = n := by
  obtain ⟨m, zeros, bound, rfl, rfl⟩ := h
  have small : m < 1 <<< 53 := by simpa [Nat.shiftLeft_eq] using bound
  rw [ofDigits, natOfDigits_zeros, ofNat, if_pos small]

end Numeral

namespace Version

/-! ### The grammar -/

def separators : List (List Char) := [[], ['-'], ['_'], ['.']]

/-- A word in any letter case and a number, each perhaps after a separator. -/
inductive SpellsPart (words : List (List Char)) (n : Numeral) : List Char → Prop
  | mk {before word after number : List Char} (first : before ∈ separators)
      (named : word.map Char.toLower ∈ words) (second : after ∈ separators) (counted : n.Spells number) :
      SpellsPart words n (before ++ (word ++ (after ++ number)))

def wordsOf : Phase → List (List Char)
  | .alpha => ["a".toList, "alpha".toList]
  | .beta => ["b".toList, "beta".toList]
  | .candidate => ["c".toList, "rc".toList, "pre".toList, "preview".toList]

inductive SpellsPost (n : Numeral) : List Char → Prop
  | worded {cs : List Char} : SpellsPart ["post".toList, "rev".toList, "r".toList] n cs → SpellsPost n cs
  | implied {number : List Char} : n.Spells number → SpellsPost n ('-' :: number)

inductive SpellsRelease : List Numeral → List Char → Prop
  | last {n : Numeral} {number : List Char} : n.Spells number → SpellsRelease [n] number
  | more {n : Numeral} {ns : List Numeral} {number cs : List Char} :
      n.Spells number → SpellsRelease ns cs → SpellsRelease (n :: ns) (number ++ '.' :: cs)

inductive SpellsEpoch : Numeral → List Char → Prop
  | omitted : SpellsEpoch .zero []
  | written {n : Numeral} {number : List Char} : n.Spells number → SpellsEpoch n (number ++ ['!'])

inductive Optionally {α : Type} (P : α → List Char → Prop) : Option α → List Char → Prop
  | missing : Optionally P none []
  | present {a : α} {cs : List Char} : P a cs → Optionally P (some a) cs

inductive SpellsPublic (v : Version) : List Char → Prop
  | mk {mark epoch release pre post dev : List Char} (marked : mark ∈ [[], ['v'], ['V']])
      (epoched : SpellsEpoch v.epoch epoch) (released : SpellsRelease v.release release)
      (phased : Optionally (fun part => SpellsPart (wordsOf part.1) part.2) v.pre pre)
      (posted : Optionally SpellsPost v.post post) (developed : Optionally (SpellsPart ["dev".toList]) v.dev dev) :
      SpellsPublic v (mark ++ (epoch ++ (release ++ (pre ++ (post ++ dev)))))

/-- A text spells a version, with a local label after it or without one. -/
inductive Spells (v : Version) (text : String) : Prop
  | plain : SpellsPublic v text.toList → Spells v text
  | labelled {cs label : List Char} : text.toList = cs ++ '+' :: label → SpellsPublic v cs → Spells v text

/-! ### Numbers -/

theorem readDigits_eq {n : Numeral} {number rest : List Char} (spelled : n.Spells number)
    (ended : Avoids Char.isDigit rest) : readDigits (number ++ rest) = (some n, rest) := by
  have value := spelled.ofDigits_eq
  have run := spanDigits_append spelled.digits ended
  obtain ⟨c, ds, _, rfl⟩ := spelled.exists_cons
  simp only [readDigits, run, value]

theorem readDigits_eq_none {cs : List Char} (ended : Avoids Char.isDigit cs) : readDigits cs = (none, cs) := by
  have run : Number.spanDigits ([] ++ cs) = ([], cs) := spanDigits_append (by simp) ended
  rw [List.nil_append] at run
  simp only [readDigits, run]

-- Whether a text can follow the numbers of a release: neither it nor what follows a point at its start
-- goes on with a digit, and no epoch ends here.
structure EndsRelease (cs : List Char) : Prop where
  unmarked : Avoids (fun c => c.isDigit || c == '!') cs
  pointed : ∀ rest, cs = '.' :: rest → Avoids Char.isDigit rest

theorem EndsRelease.ended {cs : List Char} (h : EndsRelease cs) : Avoids Char.isDigit cs := by
  intro c first
  have unmarked := h.unmarked c first
  simp_all

theorem readMore_eq_nil {cs : List Char} (h : EndsRelease cs) (fuel : Nat) : readMore fuel cs = ([], cs) := by
  cases fuel with
  | zero => rfl
  | succ fuel =>
    unfold readMore
    split
    · rfl
    · rename_i rest _
      rw [readDigits_eq_none (h.pointed rest rfl)]
    · rfl

theorem readDigits_point {n : Numeral} {number : List Char} (spelled : n.Spells number) (cs : List Char) :
    readDigits (number ++ '.' :: cs) = (some n, '.' :: cs) :=
  readDigits_eq spelled (by simp)

theorem readMore_eq {ns : List Numeral} {cs rest : List Char} (spelled : SpellsRelease ns cs) (h : EndsRelease rest)
    {fuel : Nat} (enough : (cs ++ rest).length < fuel) :
    readMore fuel ('.' :: (cs ++ rest)) = (ns, rest) := by
  induction spelled generalizing fuel with
  | last number =>
    cases fuel with
    | zero => omega
    | succ fuel => simp only [readMore, readDigits_eq number h.ended, readMore_eq_nil h]
  | @more n ns ds cs number others ih =>
    cases fuel with
    | zero => omega
    | succ fuel =>
      have left : (cs ++ rest).length < fuel := by
        simp at enough ⊢
        omega
      simp only [List.append_assoc, List.cons_append, readMore, readDigits_point number, ih left]

theorem readRelease_eq {ns : List Numeral} {cs rest : List Char} (spelled : SpellsRelease ns cs)
    (h : EndsRelease rest) : readRelease (cs ++ rest) = some (ns, rest) := by
  cases spelled with
  | last number => simp only [readRelease, readDigits_eq number h.ended, readMore_eq_nil h]
  | more number others =>
    have later := readMore_eq others h (Nat.lt_succ_self _)
    simp only [List.append_assoc, List.cons_append, readRelease, readDigits_point number, List.length_cons, later]

theorem SpellsRelease.exists_cons {ns : List Numeral} {cs : List Char} (h : SpellsRelease ns cs) :
    ∃ c ds, c.isDigit = true ∧ cs = c :: ds := by
  cases h with
  | last number => exact number.exists_cons
  | more number others =>
    obtain ⟨c, ds, digit, rfl⟩ := number.exists_cons
    exact ⟨c, _, digit, rfl⟩

theorem readEpoch_eq_zero {ns : List Numeral} {cs rest : List Char} (spelled : SpellsRelease ns cs)
    (h : EndsRelease rest) : readEpoch (cs ++ rest) = (.zero, cs ++ rest) := by
  cases spelled with
  | last number =>
    simp only [readEpoch, readDigits_eq number h.ended]
    split
    · rename_i same
      cases same
      have unmarked := h.unmarked
      simp at unmarked
    · rfl
  | more number others => simp [readEpoch, readDigits_point number]

theorem readEpoch_eq {n : Numeral} {ns : List Numeral} {epoch cs rest : List Char} (epoched : SpellsEpoch n epoch)
    (spelled : SpellsRelease ns cs) (h : EndsRelease rest) :
    readEpoch (epoch ++ (cs ++ rest)) = (n, cs ++ rest) := by
  cases epoched with
  | omitted => simpa using readEpoch_eq_zero spelled h
  | @written n number counted =>
    have marked : readDigits (number ++ '!' :: (cs ++ rest)) = (some n, '!' :: (cs ++ rest)) :=
      readDigits_eq counted (by simp)
    simp [readEpoch, marked]

/-! ### Words -/

theorem isAlpha_of_isLower_toLower {c : Char} (h : c.toLower.isLower = true) : c.isAlpha = true := by
  change (c.isUpper || c.isLower) = true
  rw [Bool.or_eq_true]
  by_cases upper : c.val ≥ 'A'.val ∧ c.val ≤ 'Z'.val
  · exact .inl (decide_eq_true upper)
  · have same : c.toLower = c := dif_neg upper
    rw [same] at h
    exact .inr h

theorem isDigit_eq_false_of_isAlpha {c : Char} (h : c.isAlpha = true) : c.isDigit = false := by
  rw [← Bool.not_eq_true, Char.isDigit_iff_toNat]
  change (decide ('A'.val ≤ c.val ∧ c.val ≤ 'Z'.val) || (decide ('a'.val ≤ c.val) && decide (c.val ≤ 'z'.val))) = true at h
  simp only [Bool.or_eq_true, Bool.and_eq_true, decide_eq_true_eq, UInt32.le_iff_toNat_le] at h
  have code : c.val.toNat = c.toNat := rfl
  simp only [code] at h
  simp at h ⊢
  omega

theorem isAlpha_eq_false_of_isDigit {c : Char} (h : c.isDigit = true) : c.isAlpha = false := by
  rw [← Bool.not_eq_true]
  intro letter
  simp [isDigit_eq_false_of_isAlpha letter] at h

theorem isSeparator_eq_false {c : Char} (h : c.isAlphanum = true) : isSeparator c = false := by
  simp only [isSeparator, Bool.or_eq_false_iff, beq_eq_false_iff_ne]
  refine ⟨⟨?_, ?_⟩, ?_⟩ <;>
  · rintro rfl
    simp at h

theorem dropWord?_append (word rest : List Char) : dropWord? (word.map Char.toLower) (word ++ rest) = some rest := by
  induction word with
  | nil => rfl
  | cons c word ih => simpa [dropWord?] using ih

theorem dropWord?_eq_none {w word rest : List Char} (other : ¬ w <+: word.map Char.toLower)
    (ended : ∀ c ∈ rest.head?, ¬ word.map Char.toLower ++ [c.toLower] <+: w) : dropWord? w (word ++ rest) = none := by
  induction w generalizing word with
  | nil => exact absurd List.nil_prefix other
  | cons a w ih =>
    cases word with
    | nil =>
      cases rest with
      | nil => rfl
      | cons c rest =>
        have differs : c.toLower ≠ a := by
          rintro rfl
          exact ended c rfl (by simp)
        simp [dropWord?, differs]
    | cons c word =>
      by_cases same : c.toLower = a
      · have shorter : ¬ w <+: word.map Char.toLower := by
          intro start
          exact other (by simpa [same] using start)
        simpa [dropWord?, same] using ih shorter fun d first start => ended d first (by simpa [same] using start)
      · simp [dropWord?, same]

-- Words that can be told apart by what a text starts with: none starts with an earlier one.
structure IsTable {α : Type} (table : List (List Char × α)) : Prop where
  letters : ∀ e ∈ table, e.1.all Char.isLower = true
  ordered : table.Pairwise fun a b => ¬ a.1 <+: b.1

-- Whether a word in a text is not part of a longer word of a table.
def Completes {α : Type} (table : List (List Char × α)) (word rest : List Char) : Prop :=
  ∀ e ∈ table, ∀ c ∈ rest.head?, ¬ word.map Char.toLower ++ [c.toLower] <+: e.1

theorem IsTable.completes {α : Type} {table : List (List Char × α)} (h : IsTable table) (word : List Char)
    {rest : List Char} (ended : Avoids Char.isAlpha rest) : Completes table word rest := by
  intro e inside c first start
  have lower := List.all_eq_true.1 (h.letters e inside) c.toLower (start.subset (by simp))
  have other := ended c first
  rw [isAlpha_of_isLower_toLower lower] at other
  cases other

theorem findSome?_dropWord? {α β : Type} {table : List (List Char × α)} (h : IsTable table) {word rest : List Char}
    {meaning : α} (named : (word.map Char.toLower, meaning) ∈ table) (ended : Completes table word rest)
    (f : α → List Char → β) :
    (table.findSome? fun e => (dropWord? e.1 (word ++ rest)).map (f e.2)) = some (f meaning rest) := by
  obtain ⟨letters, ordered⟩ := h
  induction table with
  | nil => cases named
  | cons e table ih =>
    rw [List.findSome?_cons]
    rcases List.mem_cons.1 named with rfl | later
    · simp [dropWord?_append]
    · have first : dropWord? e.1 (word ++ rest) = none :=
        dropWord?_eq_none ((List.pairwise_cons.1 ordered).1 _ later) (ended e (by simp))
      simpa [first] using ih later (fun a inside => ended a (by simp [inside]))
        (fun a inside => letters a (by simp [inside])) (List.pairwise_cons.1 ordered).2

theorem findSome?_dropWord?_eq_none {α β : Type} {table : List (List Char × α)} {word rest : List Char}
    (other : ∀ e ∈ table, ¬ e.1 <+: word.map Char.toLower) (ended : Completes table word rest)
    (f : α → List Char → β) :
    (table.findSome? fun e => (dropWord? e.1 (word ++ rest)).map (f e.2)) = none := by
  rw [List.findSome?_eq_none_iff]
  intro e inside
  rw [dropWord?_eq_none (other e inside) (ended e inside)]
  rfl

theorem phaseWords_isTable : IsTable phaseWords := ⟨by decide, by decide⟩

theorem postWords_isTable : IsTable postWords := ⟨by decide, by decide⟩

theorem devWords_isTable : IsTable devWords := ⟨by decide, by decide⟩

theorem dropSeparator_append {before cs : List Char} (h : before ∈ separators) (ended : Avoids isSeparator cs) :
    dropSeparator (before ++ cs) = cs := by
  simp only [separators, List.mem_cons, List.not_mem_nil, or_false] at h
  rcases h with rfl | rfl | rfl | rfl
  · cases cs with
    | nil => rfl
    | cons c cs => simp_all [dropSeparator]
  all_goals rfl

theorem avoids_append_of_mem_separators {p : Char → Bool} {before cs : List Char} (h : before ∈ separators)
    (signs : p '-' = false ∧ p '_' = false ∧ p '.' = false) (ended : Avoids p cs) : Avoids p (before ++ cs) := by
  simp only [separators, List.mem_cons, List.not_mem_nil, or_false] at h
  rcases h with rfl | rfl | rfl | rfl
  · exact ended
  all_goals simp [signs]

/-! ### Parts with a word -/

section

variable {α : Type} {table : List (List Char × α)} {before word rest : List Char}

theorem readPart_append (first : before ∈ separators) (start : Avoids isSeparator (word ++ rest)) :
    readPart table (before ++ (word ++ rest)) = table.findSome? fun e =>
      (dropWord? e.1 (word ++ rest)).map fun left =>
        ((e.2, (readDigits (dropSeparator left)).1.getD .zero), (readDigits (dropSeparator left)).2) := by
  rw [readPart, dropSeparator_append first start]

theorem readPart_word (h : IsTable table) (first : before ∈ separators) (start : Avoids isSeparator (word ++ rest))
    {meaning : α} (named : (word.map Char.toLower, meaning) ∈ table) (ended : Completes table word rest) :
    readPart table (before ++ (word ++ rest)) =
      some ((meaning, (readDigits (dropSeparator rest)).1.getD .zero), (readDigits (dropSeparator rest)).2) := by
  rw [readPart_append first start]
  exact findSome?_dropWord? h named ended fun meaning left =>
    ((meaning, (readDigits (dropSeparator left)).1.getD .zero), (readDigits (dropSeparator left)).2)

theorem readPart_other_word (first : before ∈ separators) (start : Avoids isSeparator (word ++ rest))
    (other : ∀ e ∈ table, ¬ e.1 <+: word.map Char.toLower) (ended : Completes table word rest) :
    readPart table (before ++ (word ++ rest)) = none := by
  rw [readPart_append first start]
  exact findSome?_dropWord?_eq_none other ended fun meaning left =>
    ((meaning, (readDigits (dropSeparator left)).1.getD .zero), (readDigits (dropSeparator left)).2)

end

def AreWords (words : List (List Char)) : Prop := ∀ w ∈ words, w ≠ [] ∧ w.all Char.isLower = true

instance (words : List (List Char)) : Decidable (AreWords words) :=
  inferInstanceAs (Decidable (∀ w ∈ words, w ≠ [] ∧ w.all Char.isLower = true))

theorem AreWords.avoids {words : List (List Char)} (h : AreWords words) {word : List Char}
    (named : word.map Char.toLower ∈ words) {p : Char → Bool} (apart : ∀ c, c.isAlpha = true → p c = false)
    (rest : List Char) : Avoids p (word ++ rest) := by
  obtain ⟨filled, letters⟩ := h _ named
  cases word with
  | nil => exact absurd rfl filled
  | cons c cs =>
    rw [List.map_cons, List.all_cons, Bool.and_eq_true] at letters
    simpa using apart c (isAlpha_of_isLower_toLower letters.1)

theorem avoids_isAlpha_of_number {n : Numeral} {after number : List Char} (second : after ∈ separators)
    (counted : n.Spells number) (rest : List Char) : Avoids Char.isAlpha (after ++ (number ++ rest)) :=
  avoids_append_of_mem_separators second (by decide) (counted.avoids (fun _ => isAlpha_eq_false_of_isDigit) rest)

/-- A word in any letter case, perhaps with a separator before and after it, and perhaps with digits. -/
inductive IsPart (words : List (List Char)) : List Char → Prop
  | mk {before word after number : List Char} (first : before ∈ separators)
      (named : word.map Char.toLower ∈ words) (second : after ∈ separators)
      (digits : ∀ c ∈ number, c.isDigit = true) : IsPart words (before ++ (word ++ (after ++ number)))

namespace IsPart

variable {words : List (List Char)} {cs rest : List Char}

-- What a part starts with: a separator or the first letter of a word.
theorem avoids (h : IsPart words cs) (areWords : AreWords words) {p : Char → Bool}
    (signs : p '-' = false ∧ p '_' = false ∧ p '.' = false)
    (letters : ∀ c, c.isAlpha = true → (∃ w ∈ words, w.head? = some c.toLower) → p c = false) (rest : List Char) :
    Avoids p (cs ++ rest) := by
  cases h with
  | @mk before word after number first spelled second digits =>
    simp only [List.append_assoc]
    refine avoids_append_of_mem_separators first signs ?_
    obtain ⟨filled, lower⟩ := areWords _ spelled
    cases word with
    | nil => exact absurd rfl filled
    | cons c word =>
      rw [List.map_cons, List.all_cons, Bool.and_eq_true] at lower
      simpa using letters c (isAlpha_of_isLower_toLower lower.1) ⟨_, spelled, rfl⟩

theorem separated (h : IsPart words cs) (areWords : AreWords words) {c : Char} {left : List Char}
    (split : cs ++ rest = c :: left) (separator : isSeparator c = true) : Avoids Char.isDigit left := by
  cases h with
  | @mk before word after number first spelled second digits =>
    have start : Avoids Char.isDigit (word ++ (after ++ (number ++ rest))) :=
      areWords.avoids spelled (fun _ => isDigit_eq_false_of_isAlpha) _
    have lettered : Avoids isSeparator (word ++ (after ++ (number ++ rest))) :=
      areWords.avoids spelled (fun _ letter => isSeparator_eq_false (by simp [Char.isAlphanum, letter])) _
    simp only [List.append_assoc] at split
    simp only [separators, List.mem_cons, List.not_mem_nil, or_false] at first
    rcases first with rfl | rfl | rfl | rfl
    · rw [List.nil_append] at split
      rw [split, avoids_cons, separator] at lettered
      cases lettered
    all_goals
      cases split
      exact start

theorem ends (h : IsPart words cs) (areWords : AreWords words) (rest : List Char) :
    EndsRelease (cs ++ rest) := by
  refine ⟨h.avoids areWords (by decide) (fun c letter _ => ?_) rest, fun left split => ?_⟩
  · have other : c ≠ '!' := by
      rintro rfl
      simp at letter
    simp [isDigit_eq_false_of_isAlpha letter, other]
  · exact h.separated areWords split (by decide)

end IsPart

namespace SpellsPart

variable {words : List (List Char)} {n : Numeral} {cs : List Char}

theorem isPart (h : SpellsPart words n cs) : IsPart words cs := by
  cases h with
  | mk first named second counted => exact .mk first named second counted.digits

theorem readPart_eq {α : Type} {table : List (List Char × α)} (h : SpellsPart words n cs)
    (areWords : AreWords words) (isTable : IsTable table) {meaning : α} (meant : ∀ w ∈ words, (w, meaning) ∈ table)
    {rest : List Char} (ended : Avoids Char.isDigit rest) : readPart table (cs ++ rest) = some ((meaning, n), rest) := by
  cases h with
  | @mk before word after number first named second counted =>
    have start : Avoids isSeparator (word ++ (after ++ (number ++ rest))) :=
      areWords.avoids named (fun _ letter => isSeparator_eq_false (by simp [Char.isAlphanum, letter])) _
    have digitStart : Avoids isSeparator (number ++ rest) :=
      counted.avoids (fun _ digit => isSeparator_eq_false (by simp [Char.isAlphanum, digit])) _
    have numbered : readDigits (dropSeparator (after ++ (number ++ rest))) = (some n, rest) := by
      rw [dropSeparator_append second digitStart, readDigits_eq counted ended]
    simp only [List.append_assoc]
    rw [readPart_word isTable first start (meant _ named)
        (isTable.completes word (avoids_isAlpha_of_number second counted rest)), numbered]
    rfl

theorem readPart_eq_none {α : Type} {table : List (List Char × α)} (h : SpellsPart words n cs)
    (areWords : AreWords words) (isTable : IsTable table) (other : ∀ w ∈ words, ∀ e ∈ table, ¬ e.1 <+: w)
    (rest : List Char) : readPart table (cs ++ rest) = none := by
  cases h with
  | @mk before word after number first named second counted =>
    have start : Avoids isSeparator (word ++ (after ++ (number ++ rest))) :=
      areWords.avoids named (fun _ letter => isSeparator_eq_false (by simp [Char.isAlphanum, letter])) _
    simp only [List.append_assoc]
    exact readPart_other_word first start (other _ named)
      (isTable.completes word (avoids_isAlpha_of_number second counted rest))

end SpellsPart

theorem Optionally.elim {α : Type} {P : α → List Char → Prop} {a : Option α} {cs : List Char}
    (h : Optionally P a cs) {Q : List Char → Prop} {rest : List Char} (present : ∀ a cs, P a cs → Q (cs ++ rest))
    (missing : Q rest) : Q (cs ++ rest) := by
  cases h with
  | missing => exact missing
  | present spelled => exact present _ _ spelled

theorem areWords_wordsOf (phase : Phase) : AreWords (wordsOf phase) := by
  cases phase <;> decide

theorem areWords_post : AreWords ["post".toList, "rev".toList, "r".toList] := by decide

theorem areWords_dev : AreWords ["dev".toList] := by decide

/-! ### The parts after a release -/

theorem endsRelease_nil : EndsRelease [] := ⟨by simp, by simp⟩

theorem readPart_nil {α : Type} {table : List (List Char × α)} (h : IsTable table) (filled : ∀ e ∈ table, e.1 ≠ []) :
    readPart table [] = none := by
  have other : ∀ e ∈ table, ¬ e.1 <+: [] := by simpa using filled
  have none : readPart table ([] ++ ([] ++ [])) = none :=
    readPart_other_word (by decide) (by simp) other (h.completes [] (avoids_nil _))
  exact none

section

variable {n : Numeral} {cs : List Char}

theorem readPost_eq_readOptional (pointed : ∀ rest, cs = '-' :: rest → Avoids Char.isDigit rest) :
    readPost cs = ((readOptional postWords cs).1.map (·.2), (readOptional postWords cs).2) := by
  cases cs with
  | nil => rfl
  | cons c cs =>
    by_cases hyphen : c = '-'
    · subst hyphen
      simp only [readPost, readDigits_eq_none (pointed cs rfl)]
    · simp [readPost, hyphen]

theorem SpellsPost.ends (h : SpellsPost n cs) (rest : List Char) : EndsRelease (cs ++ rest) := by
  cases h with
  | worded part => exact part.isPart.ends areWords_post rest
  | implied counted => exact ⟨by simp, by simp⟩

theorem SpellsPost.readPart_eq_none (h : SpellsPost n cs) (rest : List Char) :
    readPart phaseWords (cs ++ rest) = none := by
  cases h with
  | worded part => exact part.readPart_eq_none areWords_post phaseWords_isTable (by decide) rest
  | @implied number counted =>
    have unlettered : Avoids Char.isAlpha (number ++ rest) :=
      counted.avoids (fun _ => isAlpha_eq_false_of_isDigit) rest
    have unseparated : Avoids isSeparator (number ++ rest) :=
      counted.avoids (fun _ digit => isSeparator_eq_false (by simp [Char.isAlphanum, digit])) rest
    have none : readPart phaseWords (['-'] ++ ([] ++ (number ++ rest))) = none :=
      readPart_other_word (by decide) unseparated (by decide) (phaseWords_isTable.completes [] unlettered)
    exact none

theorem SpellsPost.readPost_eq (h : SpellsPost n cs) {rest : List Char} (ended : Avoids Char.isDigit rest) :
    readPost (cs ++ rest) = (some n, rest) := by
  cases h with
  | worded part =>
    have found : readPart postWords (cs ++ rest) = some (((), n), rest) :=
      part.readPart_eq areWords_post postWords_isTable (by decide) ended
    rw [readPost_eq_readOptional fun left split => part.isPart.separated areWords_post split (by decide)]
    simp [readOptional, found]
  | implied counted => simp only [readPost, List.cons_append, readDigits_eq counted ended]

end

section

variable {p : Option (Phase × Numeral)} {q d : Option Numeral} {pre post dev : List Char}

theorem ends_dev (developed : Optionally (SpellsPart ["dev".toList]) d dev) : EndsRelease dev := by
  have ended : EndsRelease (dev ++ []) := developed.elim (fun _ _ part => part.isPart.ends areWords_dev []) endsRelease_nil
  rwa [List.append_nil] at ended

theorem ends_post (posted : Optionally SpellsPost q post) (developed : Optionally (SpellsPart ["dev".toList]) d dev) :
    EndsRelease (post ++ dev) :=
  posted.elim (fun _ _ part => part.ends dev) (ends_dev developed)

theorem ends_pre (phased : Optionally (fun part => SpellsPart (wordsOf part.1) part.2) p pre)
    (posted : Optionally SpellsPost q post) (developed : Optionally (SpellsPart ["dev".toList]) d dev) :
    EndsRelease (pre ++ (post ++ dev)) :=
  phased.elim (fun part _ h => h.isPart.ends (areWords_wordsOf part.1) _) (ends_post posted developed)

theorem readPart_dev_eq_none (developed : Optionally (SpellsPart ["dev".toList]) d dev) {α : Type}
    {table : List (List Char × α)} (h : IsTable table) (filled : ∀ e ∈ table, e.1 ≠ [])
    (other : ∀ e ∈ table, ¬ e.1 <+: "dev".toList) : readPart table dev = none := by
  have unread : readPart table (dev ++ []) = none :=
    developed.elim (Q := fun cs => readPart table cs = none)
      (fun _ _ part => part.readPart_eq_none areWords_dev h (by simpa using other) []) (readPart_nil h filled)
  rwa [List.append_nil] at unread

theorem readOptional_dev (developed : Optionally (SpellsPart ["dev".toList]) d dev) :
    readOptional devWords dev = (d.map fun n => ((), n), []) := by
  cases developed with
  | missing => simp [readOptional, readPart_nil devWords_isTable (by decide)]
  | @present n _ part =>
    have found : readPart devWords (dev ++ []) = some (((), n), []) :=
      part.readPart_eq areWords_dev devWords_isTable (by decide) (by simp)
    rw [List.append_nil] at found
    simp [readOptional, found]

theorem readPost_post (posted : Optionally SpellsPost q post)
    (developed : Optionally (SpellsPart ["dev".toList]) d dev) : readPost (post ++ dev) = (q, dev) := by
  cases posted with
  | present part => exact part.readPost_eq (ends_dev developed).ended
  | missing =>
    have unread : readPart postWords dev = none :=
      readPart_dev_eq_none developed postWords_isTable (by decide) (by decide)
    have pointed : ∀ rest, dev = '-' :: rest → Avoids Char.isDigit rest := by
      cases developed with
      | missing => simp
      | present part =>
        intro rest split
        exact part.isPart.separated areWords_dev ((List.append_nil dev).trans split) (by decide)
    rw [List.nil_append, readPost_eq_readOptional pointed]
    simp [readOptional, unread]

theorem readOptional_pre (phased : Optionally (fun part => SpellsPart (wordsOf part.1) part.2) p pre)
    (posted : Optionally SpellsPost q post) (developed : Optionally (SpellsPart ["dev".toList]) d dev) :
    readOptional phaseWords (pre ++ (post ++ dev)) = (p, post ++ dev) := by
  cases phased with
  | @present part _ h =>
    have meant : ∀ w ∈ wordsOf part.1, (w, part.1) ∈ phaseWords := by
      cases part.1 <;> decide
    have found := h.readPart_eq (areWords_wordsOf part.1) phaseWords_isTable meant (ends_post posted developed).ended
    simp [readOptional, found]
  | missing =>
    have unread : readPart phaseWords (post ++ dev) = none :=
      posted.elim (Q := fun cs => readPart phaseWords cs = none) (fun _ _ part => part.readPart_eq_none dev)
        (readPart_dev_eq_none developed phaseWords_isTable (by decide) (by decide))
    simp [readOptional, unread]

end

/-! ### Whole versions -/

theorem dropV_append {mark cs : List Char} (h : mark ∈ [[], ['v'], ['V']]) (start : Avoids Char.isAlpha cs) :
    dropV (mark ++ cs) = cs := by
  simp only [List.mem_cons, List.not_mem_nil, or_false] at h
  rcases h with rfl | rfl | rfl
  · cases cs with
    | nil => rfl
    | cons c cs =>
      have other : c ≠ 'v' ∧ c ≠ 'V' := by
        refine ⟨?_, ?_⟩ <;>
        · rintro rfl
          simp at start
      simp [dropV, other]
  all_goals rfl

theorem avoids_isAlpha_of_epoch {n : Numeral} {ns : List Numeral} {epoch release : List Char}
    (epoched : SpellsEpoch n epoch) (released : SpellsRelease ns release) (rest : List Char) :
    Avoids Char.isAlpha (epoch ++ (release ++ rest)) := by
  cases epoched with
  | omitted =>
    obtain ⟨c, ds, first, rfl⟩ := released.exists_cons
    simpa using isAlpha_eq_false_of_isDigit first
  | written counted =>
    rw [List.append_assoc]
    exact counted.avoids (fun _ => isAlpha_eq_false_of_isDigit) _

theorem parsePublic?_eq {v : Version} {cs : List Char} (h : SpellsPublic v cs) : parsePublic? cs = some v := by
  cases h with
  | mk marked epoched released phased posted developed =>
    have ended := ends_pre phased posted developed
    simp [parsePublic?, dropV_append marked (avoids_isAlpha_of_epoch epoched released _),
      readEpoch_eq epoched released ended, readRelease_eq released ended, readOptional_pre phased posted developed,
      readPost_post posted developed, readOptional_dev developed]

/-! ### The characters of a version -/

theorem isTargetChar_of_isDigit {c : Char} (digit : c.isDigit = true) : Condition.isTargetChar c = true := by
  simp [Condition.isTargetChar, Char.isAlphanum, digit]

theorem isTargetChar_of_mem_separators {cs : List Char} (h : cs ∈ separators) :
    ∀ c ∈ cs, Condition.isTargetChar c = true := by
  have all : ∀ cs ∈ separators, cs.all Condition.isTargetChar = true := by decide
  exact List.all_eq_true.1 (all cs h)

theorem IsPart.letters {words : List (List Char)} {cs : List Char} (h : IsPart words cs) (areWords : AreWords words) :
    ∀ c ∈ cs, Condition.isTargetChar c = true := by
  cases h with
  | mk first named second digits =>
    have lower := List.all_eq_true.1 (areWords _ named).2
    simp only [List.forall_mem_append]
    refine ⟨isTargetChar_of_mem_separators first, fun c inside => ?_, isTargetChar_of_mem_separators second,
      fun c inside => isTargetChar_of_isDigit (digits c inside)⟩
    have letter := isAlpha_of_isLower_toLower (lower _ (List.mem_map_of_mem inside))
    simp [Condition.isTargetChar, Char.isAlphanum, letter]

theorem letters_of_number {n : Numeral} {cs : List Char} (h : n.Spells cs) :
    ∀ c ∈ cs, Condition.isTargetChar c = true :=
  fun c inside => isTargetChar_of_isDigit (h.digits c inside)

theorem SpellsPost.letters {n : Numeral} {cs : List Char} (h : SpellsPost n cs) :
    ∀ c ∈ cs, Condition.isTargetChar c = true := by
  cases h with
  | worded part => exact part.isPart.letters areWords_post
  | implied counted => exact List.forall_mem_cons.2 ⟨by decide, letters_of_number counted⟩

theorem SpellsRelease.letters {ns : List Numeral} {cs : List Char} (h : SpellsRelease ns cs) :
    ∀ c ∈ cs, Condition.isTargetChar c = true := by
  induction h with
  | last counted => exact letters_of_number counted
  | more counted others ih =>
    exact List.forall_mem_append.2 ⟨letters_of_number counted, List.forall_mem_cons.2 ⟨by decide, ih⟩⟩

theorem SpellsEpoch.letters {n : Numeral} {cs : List Char} (h : SpellsEpoch n cs) :
    ∀ c ∈ cs, Condition.isTargetChar c = true := by
  cases h with
  | omitted => simp
  | written counted => exact List.forall_mem_append.2 ⟨letters_of_number counted, List.forall_mem_singleton.2 (by decide)⟩

theorem Optionally.letters {α : Type} {P : α → List Char → Prop} {a : Option α} {cs : List Char}
    (h : Optionally P a cs) (each : ∀ a cs, P a cs → ∀ c ∈ cs, Condition.isTargetChar c = true) :
    ∀ c ∈ cs, Condition.isTargetChar c = true := by
  cases h with
  | missing => simp
  | present spelled => exact each _ _ spelled

theorem letters_of_mark {mark : List Char} (marked : mark ∈ [[], ['v'], ['V']]) :
    ∀ c ∈ mark, Condition.isTargetChar c = true := by
  have all : ∀ mark ∈ [[], ['v'], ['V']], mark.all Condition.isTargetChar = true := by decide
  exact List.all_eq_true.1 (all mark marked)

theorem SpellsPublic.letters {v : Version} {cs : List Char} (h : SpellsPublic v cs) :
    ∀ c ∈ cs, Condition.isTargetChar c = true := by
  cases h with
  | mk marked epoched released phased posted developed =>
    simp only [List.forall_mem_append]
    exact ⟨letters_of_mark marked, epoched.letters, released.letters,
      phased.letters fun part _ h => h.isPart.letters (areWords_wordsOf part.1),
      posted.letters fun _ _ h => h.letters, developed.letters fun _ _ h => h.isPart.letters areWords_dev⟩

-- A local label is read over, and without one the whole text is the version.
theorem parse_of_letters {cs : List Char} (letters : ∀ c ∈ cs, Condition.isTargetChar c = true) {text : String}
    (whole : text.toList = cs ∨ ∃ label, text.toList = cs ++ '+' :: label) :
    parse text = (parsePublic? cs).getD (leading cs) := by
  have visible : ∀ c ∈ cs, Text.isBlank c = false :=
    fun c inside => Condition.visible_of_isTargetChar (letters c inside)
  have unlabelled : '+' ∉ cs := fun inside => absurd (letters '+' inside) (by decide)
  rcases whole with whole | ⟨label, whole⟩
  · simp [parse, whole, Text.trim_eq_self visible, Text.cut_of_not_mem unlabelled]
  · have trimmed := Text.trim_append visible (by decide : Text.isBlank '+' = false) label
    simp [parse, whole, trimmed, Text.cut_append unlabelled]

theorem parse_eq {v : Version} {text : String} (h : v.Spells text) : parse text = v := by
  cases h with
  | plain spelled => rw [parse_of_letters spelled.letters (.inl rfl), parsePublic?_eq spelled, Option.getD_some]
  | @labelled cs label split spelled =>
    rw [parse_of_letters spelled.letters (.inr ⟨label, split⟩), parsePublic?_eq spelled, Option.getD_some]

/-- Texts that spell versions compare as the versions do: by epoch, release without the zeros at its end,
pre-release, post-release and development release. -/
theorem compareTexts_of_spells {v w : Version} {s t : String} (hs : v.Spells s) (ht : w.Spells t) :
    compareTexts s t = cmp v.key w.key := by
  rw [compareTexts_eq_cmp, parse_eq hs, parse_eq ht]

theorem compareTexts_of_spells_sample :
    let v : Version := ⟨.finite 1, [.finite 2, .finite 0], some (.alpha, .finite 1), none, none⟩
    let w : Version := ⟨.finite 1, [.finite 2], some (.alpha, .finite 1), some (.finite 3), some .zero⟩
    v.Spells "V01!2.00-ALPHA_01+x y" ∧ w.Spells "1!2a1-3.dEv00" ∧
      compareTexts "V01!2.00-ALPHA_01+x y" "1!2a1-3.dEv00" = cmp v.key w.key ∧ cmp v.key w.key = .lt := by
  intro v w
  have zero : Numeral.zero.Spells ['0', '0'] := ⟨0, 1, by decide, rfl, rfl⟩
  have one (zeros : Nat) : (Numeral.finite 1).Spells (List.replicate zeros '0' ++ ['1']) :=
    ⟨1, zeros, by decide, rfl, rfl⟩
  have two : (Numeral.finite 2).Spells ['2'] := ⟨2, 0, by decide, rfl, rfl⟩
  have three : (Numeral.finite 3).Spells ['3'] := ⟨3, 0, by decide, rfl, rfl⟩
  have first : v.Spells "V01!2.00-ALPHA_01+x y" := by
    have spelled : SpellsPublic v (['V'] ++ ((['0', '1'] ++ ['!']) ++ ((['2'] ++ '.' :: ['0', '0']) ++
        ((['-'] ++ (['A', 'L', 'P', 'H', 'A'] ++ (['_'] ++ ['0', '1']))) ++ ([] ++ []))))) :=
      .mk (by simp) (.written (one 1)) (.more two (.last zero))
        (.present (.mk (by decide) (by decide) (by decide) (one 1))) .missing .missing
    exact @Spells.labelled _ _ _ ['x', ' ', 'y'] rfl spelled
  have second : w.Spells "1!2a1-3.dEv00" := by
    have spelled : SpellsPublic w ([] ++ ((['1'] ++ ['!']) ++ (['2'] ++ (([] ++ (['a'] ++ ([] ++ ['1']))) ++
        (('-' :: ['3']) ++ (['.'] ++ (['d', 'E', 'v'] ++ ([] ++ ['0', '0'])))))))) :=
      .mk (by simp) (.written (one 0)) (.last two) (.present (.mk (by decide) (by decide) (by decide) (one 0)))
        (.present (.implied three)) (.present (.mk (by decide) (by decide) (by decide) zero))
    exact .plain spelled
  have order : compare v w = .lt := by decide
  refine ⟨first, second, compareTexts_of_spells first second, ?_⟩
  rw [← compare_eq_cmp, order]

end Version

end Wheelhouse
