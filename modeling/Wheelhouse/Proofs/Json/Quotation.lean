import Wheelhouse.Json.Printer
import Wheelhouse.Json.Reader

/-!
A quoted text is read back. Halves of surrogate pairs are written by number, so two halves that stand
side by side would be read as one character; a text of code units has no such halves.
-/

set_option autoImplicit false

namespace Wheelhouse

namespace Text

def isHighHalf (c : Char) : Bool := (half? c).any isHighSurrogate

def isLowHalf (c : Char) : Bool := (half? c).any isLowSurrogate

-- A text of code units: two halves that make a pair stand for the character of the pair, not for themselves.
inductive IsWhole : List Char → Prop
  | nil : IsWhole []
  | single (c : Char) : IsWhole [c]
  | cons {a b : Char} {rest : List Char} (apart : ¬(isHighHalf a = true ∧ isLowHalf b = true))
      (whole : IsWhole (b :: rest)) : IsWhole (a :: b :: rest)

theorem IsWhole.tail {c : Char} {cs : List Char} (h : IsWhole (c :: cs)) : IsWhole cs := by
  cases h with
  | single => exact .nil
  | cons _ whole => exact whole

theorem isWhole_of_half?_eq_none {cs : List Char} (single : ∀ c ∈ cs, half? c = none) : IsWhole cs := by
  induction cs with
  | nil => exact .nil
  | cons a cs ih =>
    cases cs with
    | nil => exact .single a
    | cons b cs =>
      refine .cons (fun pair => ?_) (ih fun c inside => single c (List.mem_cons_of_mem _ inside))
      simp [isHighHalf, single a List.mem_cons_self] at pair

theorem IsWhole.append_cons {as bs : List Char} {c : Char} (ha : IsWhole as) (hb : IsWhole bs)
    (single : half? c = none) : IsWhole (as ++ c :: bs) := by
  have last : IsWhole (c :: bs) := by
    cases bs with
    | nil => exact .single c
    | cons b bs => exact .cons (by simp [isHighHalf, single]) hb
  induction ha with
  | nil => exact last
  | single a => exact .cons (by simp [isLowHalf, single]) last
  | cons apart _ ih => exact .cons apart ih

theorem half?_eq_some_iff {c : Char} {u : Nat} :
    half? c = some u ↔ c.toNat = u + halfDistance ∧ 0xD800 ≤ u ∧ u < 0xE000 := by
  have distance : halfDistance = 0x100000 := rfl
  unfold half?
  split
  · rename_i inside
    simp only [Bool.and_eq_true, decide_eq_true_eq] at inside
    rw [Option.some.injEq]
    omega
  · rename_i inside
    simp only [Bool.and_eq_true, decide_eq_true_eq, not_and] at inside
    constructor
    · intro h
      cases h
    · intro h
      omega

end Text

namespace Json

theorem digitValue?_hexDigit {n : Nat} (h : n < 16) : Number.digitValue? (hexDigit n) = some n := by
  have each : ∀ k < 16, Number.digitValue? (hexDigit k) = some k := by decide
  exact each n h

theorem readUnit_digits {u : Nat} (h : u < 65536) (rest : List Char) :
    readUnit (hexDigit (u / 4096) :: hexDigit (u / 256 % 16) :: hexDigit (u / 16 % 16) ::
      hexDigit (u % 16) :: rest) = .ok (u, rest) := by
  have first : u / 4096 < 16 := by omega
  have value : (((0 * 16 + u / 4096) * 16 + u / 256 % 16) * 16 + u / 16 % 16) * 16 + u % 16 = u := by
    omega
  simp only [readUnit, readHex, digitValue?_hexDigit first, digitValue?_hexDigit (Nat.mod_lt _ (by decide)),
    value]

-- What follows the first half of a pair must not be the other half.
def Separate (rest : List Char) : Prop :=
  ∀ rest', rest = '\\' :: 'u' :: rest' → ∃ u after, readUnit rest' = .ok (u, after) ∧
    Text.isLowSurrogate u = false

theorem readNumbered_digits {u : Nat} (h : u < 65536) {rest : List Char}
    (separate : Text.isHighSurrogate u = true → Separate rest) :
    readNumbered (hexDigit (u / 4096) :: hexDigit (u / 256 % 16) :: hexDigit (u / 16 % 16) ::
      hexDigit (u % 16) :: rest) = .ok (Text.charOfUnit u, rest) := by
  rw [readNumbered, readUnit_digits h]
  simp only
  split
  · rename_i rest' high
    obtain ⟨low, after, read, other⟩ := separate high rest' rfl
    rw [read]
    simp [other]
  · rfl

theorem charOfUnit_of_half? {c : Char} {u : Nat} (half : Text.half? c = some u) : Text.charOfUnit u = c := by
  obtain ⟨value, low, high⟩ := Text.half?_eq_some_iff.1 half
  have surrogate : (Text.isHighSurrogate u || Text.isLowSurrogate u) = true := by
    simp only [Text.isHighSurrogate, Text.isLowSurrogate, Bool.or_eq_true, Bool.and_eq_true,
      decide_eq_true_eq]
    omega
  rw [Text.charOfUnit, if_pos surrogate, ← value, Char.ofNat_toNat]

theorem charOfUnit_of_lt {c : Char} (control : c.toNat < 32) : Text.charOfUnit c.toNat = c := by
  have none : ¬(Text.isHighSurrogate c.toNat || Text.isLowSurrogate c.toNat) = true := by
    simp only [Text.isHighSurrogate, Text.isLowSurrogate, Bool.or_eq_true, Bool.and_eq_true,
      decide_eq_true_eq]
    omega
  rw [Text.charOfUnit, if_neg none, Char.ofNat_toNat]

-- How a character is written: by a letter, by number, or as it is.
inductive Written (c : Char) : List Char → Prop
  | letter {e : Char} (stands : escaped? e = some c) (other : e ≠ 'u') : Written c ['\\', e]
  | number {u : Nat} (bound : u < 65536) (unit : Text.charOfUnit u = c)
      (high : Text.isHighSurrogate u = true → Text.isHighHalf c = true)
      (low : Text.isLowSurrogate u = true → Text.isLowHalf c = true) : Written c (numbered u)
  | plain (unquoted : c ≠ '"') (unescaped : c ≠ '\\') (printed : ¬c.toNat < 32) : Written c [c]

theorem written_of_control {c : Char} (control : c.toNat < 32) : Written c (numbered c.toNat) := by
  have neither : Text.isHighSurrogate c.toNat = false ∧ Text.isLowSurrogate c.toNat = false := by
    simp only [Text.isHighSurrogate, Text.isLowSurrogate, Bool.and_eq_false_iff, decide_eq_false_iff_not]
    omega
  refine .number (by omega) (charOfUnit_of_lt control) (fun high => ?_) fun low => ?_
  · rw [neither.1] at high
    cases high
  · rw [neither.2] at low
    cases low

theorem written_of_half? {c : Char} {u : Nat} (half : Text.half? c = some u) : Written c (numbered u) := by
  obtain ⟨_, _, bound⟩ := Text.half?_eq_some_iff.1 half
  refine .number (by omega) (charOfUnit_of_half? half) (fun high => ?_) fun low => ?_
  · simpa [Text.isHighHalf, half] using high
  · simpa [Text.isLowHalf, half] using low

theorem written_escape (c : Char) : Written c (escape c) := by
  by_cases quote : c = '"'
  · exact quote ▸ .letter rfl (by decide)
  by_cases slash : c = '\\'
  · exact slash ▸ .letter rfl (by decide)
  by_cases line : c = '\n'
  · exact line ▸ .letter rfl (by decide)
  by_cases back : c = '\r'
  · exact back ▸ .letter rfl (by decide)
  by_cases tab : c = '\t'
  · exact tab ▸ .letter rfl (by decide)
  by_cases eight : c.toNat = 8
  · have same : c = '\x08' := Char.toNat_inj.1 eight
    exact same ▸ .letter rfl (by decide)
  by_cases twelve : c.toNat = 12
  · have same : c = '\x0c' := Char.toNat_inj.1 twelve
    exact same ▸ .letter rfl (by decide)
  simp only [escape, beq_iff_eq, if_neg quote, if_neg slash, if_neg line, if_neg back, if_neg tab, if_neg eight,
    if_neg twelve]
  by_cases control : c.toNat < 32
  · rw [if_pos control]
    exact written_of_control control
  · rw [if_neg control]
    cases half : Text.half? c with
    | some u => exact written_of_half? half
    | none => exact .plain quote slash control

theorem readQuoted_letter {c e : Char} {rest seen : List Char} (fuel : Nat) (letter : escaped? e = some c)
    (other : e ≠ 'u') : readQuoted (fuel + 1) seen ('\\' :: e :: rest) = readQuoted fuel (c :: seen) rest := by
  simp only [readQuoted, beq_iff_eq, if_neg other, letter]
  rfl

theorem readQuoted_numbered {c : Char} {u : Nat} {rest seen : List Char} (fuel : Nat)
    (unit : Text.charOfUnit u = c) (bound : u < 65536)
    (separate : Text.isHighSurrogate u = true → Separate rest) :
    readQuoted (fuel + 1) seen (numbered u ++ rest) = readQuoted fuel (c :: seen) rest := by
  simp only [numbered, List.cons_append, List.nil_append, readQuoted, readNumbered_digits bound separate,
    unit]
  rfl

theorem readQuoted_escape {c : Char} {rest seen : List Char} (fuel : Nat)
    (separate : Text.isHighHalf c = true → Separate rest) :
    readQuoted (fuel + 1) seen (escape c ++ rest) = readQuoted fuel (c :: seen) rest := by
  have written := written_escape c
  generalize escape c = text at written ⊢
  cases written with
  | letter stands other => exact readQuoted_letter fuel stands other
  | number bound unit high _ => exact readQuoted_numbered fuel unit bound fun h => separate (high h)
  | plain unquoted unescaped printed =>
    simp only [List.cons_append, List.nil_append, readQuoted, beq_iff_eq, if_neg unquoted,
      if_neg unescaped, if_neg printed]

theorem separate_of_isWhole {c : Char} {cs tail : List Char} (whole : Text.IsWhole (c :: cs))
    (high : Text.isHighHalf c = true) : Separate (cs.flatMap escape ++ '"' :: tail) := by
  intro rest' start
  cases cs with
  | nil => exact absurd (List.cons.inj start).1 (by decide)
  | cons d cs =>
    rw [List.flatMap_cons, List.append_assoc] at start
    have written := written_escape d
    generalize escape d = text at written start
    cases written with
    | letter stands other => exact absurd (List.cons.inj (List.cons.inj start).2).1 other
    | @number u bound _ _ low =>
      have digits := (List.cons.inj (List.cons.inj start).2).2
      rw [← digits]
      refine ⟨u, _, readUnit_digits bound _, ?_⟩
      rw [← Bool.not_eq_true]
      cases whole with
      | cons apart _ => exact fun surrogate => apart ⟨high, low surrogate⟩
    | plain _ unescaped _ => exact absurd (List.cons.inj start).1 unescaped

theorem readQuoted_flatMap_escape {cs : List Char} (whole : Text.IsWhole cs) (tail : List Char) {fuel : Nat}
    (enough : cs.length < fuel) (seen : List Char) :
    readQuoted fuel seen (cs.flatMap escape ++ '"' :: tail) =
      .ok (String.ofList (seen.reverse ++ cs), tail) := by
  induction cs generalizing fuel seen with
  | nil =>
    obtain ⟨fuel, rfl⟩ := Nat.exists_eq_succ_of_ne_zero (Nat.ne_of_gt enough)
    simp [readQuoted]
  | cons c cs ih =>
    obtain ⟨fuel, rfl⟩ := Nat.exists_eq_succ_of_ne_zero (Nat.ne_of_gt (Nat.zero_lt_of_lt enough))
    rw [List.flatMap_cons, List.append_assoc, readQuoted_escape fuel (separate_of_isWhole whole),
      ih whole.tail (Nat.lt_of_succ_lt_succ enough)]
    simp

theorem one_le_length_escape (c : Char) : 1 ≤ (escape c).length := by
  have written := written_escape c
  generalize escape c = text at written ⊢
  cases written <;> simp [numbered]

theorem length_le_length_flatMap_escape (cs : List Char) : cs.length ≤ (cs.flatMap escape).length := by
  induction cs with
  | nil => simp
  | cons c cs ih =>
    have one := one_le_length_escape c
    rw [List.flatMap_cons, List.length_append, List.length_cons]
    omega

theorem readString_quote {s : String} (whole : Text.IsWhole s.toList) (tail : List Char) :
    readString (s.toList.flatMap escape ++ '"' :: tail) = .ok (s, tail) := by
  have longer := length_le_length_flatMap_escape s.toList
  rw [readString, readQuoted_flatMap_escape whole tail (by rw [List.length_append, List.length_cons]; omega)]
  simp

end Json

end Wheelhouse
