import Wheelhouse.Json.Printer
import Wheelhouse.Json.Reader
import Wheelhouse.Proofs.Number.Shortest

/-!
Numbers in the text of a value. The text of a number is read back as the number, up to what cannot go on with
it, and every number that is read from a text has a text of its own.
-/

set_option autoImplicit false

namespace Wheelhouse.Json

open Number

variable {cs rest : List Char} {d : Decimal} {n : Number}

/-! ### Numbers that are read without a fault -/

theorem exists_digit_of_readDecimal (read : readDecimal true cs = some (d, rest)) :
    ∃ c more, cs = c :: more ∧ c.isDigit = true := by
  cases cs with
  | nil => simp [readDecimal, spanDigits, List.span, List.span.loop, readFraction] at read
  | cons c more =>
    by_cases digit : c.isDigit = true
    · exact ⟨c, more, rfl, digit⟩
    · have run : spanDigits (c :: more) = ([], c :: more) := by
        rw [spanDigits, List.span_eq_takeWhile_dropWhile, List.takeWhile_cons_of_neg digit, List.dropWhile_cons_of_neg digit]
      simp [readDecimal, run] at read

-- What is left of a power of ten after its letter and its sign.
def unsignedExponent : List Char → List Char
  | s :: after => if s == '+' || s == '-' then after else s :: after
  | [] => []

theorem exponentFault?_cons {e : Char} (letter : (e == 'e' || e == 'E') = true) : exponentFault? (e :: rest) =
    if (spanDigits (unsignedExponent rest)).1.isEmpty then some ⟨.noExponentDigit, unsignedExponent rest⟩ else none := by
  simp only [exponentFault?, letter, if_true]
  cases rest <;> rfl

theorem readExponent_cons {e : Char} (letter : (e == 'e' || e == 'E') = true)
    (none : (spanDigits (unsignedExponent rest)).1 = []) : readExponent (e :: rest) = (0, e :: rest) := by
  obtain ⟨left, run⟩ : ∃ left, spanDigits (unsignedExponent rest) = ([], left) := ⟨_, Prod.ext none rfl⟩
  cases rest with
  | nil => simp_all [readExponent, unsignedExponent]
  | cons s after =>
    by_cases plus : s = '+'
    · subst plus
      simp_all [readExponent, unsignedExponent]
    · by_cases minus : s = '-'
      · subst minus
        simp_all [readExponent, unsignedExponent]
      · have bare : unsignedExponent (s :: after) = s :: after := by simp [unsignedExponent, plus, minus]
        rw [bare] at run
        simp [readExponent, letter, plus, minus, run]

-- A power of ten that has begun is complete, or its letter is left.
theorem exponentFault?_eq_none (avoids : Avoids continuesNumber (readExponent cs).2) : exponentFault? cs = none := by
  cases cs with
  | nil => rfl
  | cons e rest =>
    by_cases letter : (e == 'e' || e == 'E') = true
    · rw [exponentFault?_cons letter]
      apply if_neg
      intro none
      rw [readExponent_cons letter (List.isEmpty_iff.1 none), avoids_cons] at avoids
      obtain ⟨_, _, small, great⟩ := continuesNumber_eq_false avoids
      simp [small, great] at letter
    · simp [exponentFault?, letter]

-- What is left after the digits after a point, if there are any.
def afterFraction (cs : List Char) : List Char :=
  match readFraction cs with
  | some ([], _) => cs
  | some (_, after) => after
  | none => cs

theorem readDecimal_eq_some (read : readDecimal true cs = some (d, rest)) :
    (∃ c ds, (spanDigits cs).1 = c :: ds ∧ (c = '0' → ds = [])) ∧
      rest = (readExponent (afterFraction (spanDigits cs).2)).2 := by
  unfold readDecimal at read
  generalize spanDigits cs = run at read ⊢
  obtain ⟨whole, after⟩ := run
  cases whole with
  | nil => simp at read
  | cons c ds =>
    have lead : c = '0' → ds = [] := by
      intro zero
      subst zero
      cases ds with
      | nil => rfl
      | cons e es => simp at read
    refine ⟨⟨c, ds, rfl, lead⟩, ?_⟩
    simp only [Option.ite_none_right_eq_some, Option.some.injEq, Prod.mk.injEq] at read
    rw [← read.2.2, afterFraction]
    cases readFraction after with
    | none => rfl
    | some r =>
      obtain ⟨digits, after'⟩ := r
      cases digits <;> rfl

theorem exists_point_of_readFraction {r : List Char × List Char} (read : readFraction cs = some r) :
    ∃ more, cs = '.' :: more := by
  unfold readFraction at read
  split at read
  · exact ⟨_, rfl⟩
  · cases read

theorem numberFault?_eq_none (read : readDecimal true cs = some (d, rest)) (avoids : Avoids continuesNumber rest) :
    numberFault? cs = none := by
  obtain ⟨⟨c, ds, whole, lead⟩, rfl⟩ := readDecimal_eq_some read
  have fault := exponentFault?_eq_none avoids
  unfold numberFault?
  unfold afterFraction at avoids fault
  generalize spanDigits cs = run at whole avoids fault ⊢
  obtain ⟨_, after⟩ := run
  simp only at whole avoids fault ⊢
  subst whole
  split
  · contradiction
  · rename_i same
    cases same
    exact absurd (lead rfl) (List.cons_ne_nil _ _)
  · cases fraction : readFraction after with
    | none =>
      rw [fraction] at fault
      exact fault
    | some r =>
      obtain ⟨digits, after'⟩ := r
      rw [fraction] at avoids fault
      cases digits with
      | cons e es => exact fault
      | nil =>
        -- A point without digits after it is left, and it would go on with a number.
        obtain ⟨more, rfl⟩ := exists_point_of_readFraction fraction
        simp [readExponent, continuesNumber] at avoids

/-! ### Numbers that have a text -/

theorem hasForm_of_readUnsigned (read : readUnsigned cs = .ok (n, rest)) (finite : n.isFinite = true) : n.HasForm := by
  unfold readUnsigned at read
  split at read
  · cases read
  · split at read
    · cases read
      exact Decimal.hasForm_toNumber finite
    · cases read

/-- A finite number that is read from a text has a form. -/
theorem hasForm_of_readNumber (read : readNumber cs = .ok (n, rest)) (finite : n.isFinite = true) : n.HasForm := by
  unfold readNumber at read
  split at read
  · rename_i cs
    cases unsigned : readUnsigned cs with
    | error f => simp [unsigned, Except.map] at read
    | ok r =>
      simp only [unsigned, Except.map, Except.ok.injEq, Prod.mk.injEq] at read
      rw [← read.1] at finite ⊢
      rw [isFinite_negate] at finite
      exact (hasForm_of_readUnsigned unsigned finite).negate
  · exact hasForm_of_readUnsigned read finite

-- A value that is a finite number has a form.
def Formed (v : Json) : Prop := ∀ n, v = .number n → n.isFinite = true → n.HasForm

theorem exists_array_of_readItems {fuel : ℕ} {seen : List Json} {v : Json} (read : readItems fuel seen cs = .ok (v, rest)) :
    ∃ items, v = .array items := by
  induction fuel generalizing seen cs with
  | zero => cases read
  | succ fuel ih =>
    rw [readItems] at read
    split at read
    · cases read
    · split at read
      · exact ih read
      · cases read
        exact ⟨_, rfl⟩
      · cases read

theorem exists_object_of_readMembers {fuel : ℕ} {seen : Members} {v : Json}
    (read : readMembers fuel seen cs = .ok (v, rest)) : ∃ found, v = .object found := by
  induction fuel generalizing seen cs with
  | zero => cases read
  | succ fuel ih =>
    rw [readMembers] at read
    split at read
    · split at read
      · cases read
      · split at read
        · split at read
          · cases read
          · split at read
            · exact ih read
            · cases read
              exact ⟨_, rfl⟩
            · cases read
        · cases read
    · cases read

theorem readWord_ok {v v' : Json} {word : List Char} (read : readWord v word cs = .ok (v', rest)) : v' = v := by
  induction word generalizing cs with
  | nil =>
    cases read
    rfl
  | cons w word ih =>
    cases cs with
    | nil => cases read
    | cons c cs =>
      rw [readWord] at read
      split at read
      · exact ih read
      · cases read

-- What a reading has gone through where it gives a number or an object.
theorem readValue_cases {fuel : ℕ} {v : Json} (read : readValue fuel cs = .ok (v, rest)) :
    (∃ n start, v = .number n ∧ readNumber start = .ok (n, rest)) ∨
      (∃ found, v = .object found ∧
        (found = [] ∨ ∃ fuel' start, readMembers fuel' [] start = .ok (.object found, rest))) ∨
      ((∀ n, v ≠ .number n) ∧ ∀ found, v ≠ .object found) := by
  cases fuel with
  | zero => cases read
  | succ fuel =>
    rw [readValue] at read
    split at read
    · cases read
    · split at read
      · cases read
        exact .inr (.inl ⟨[], rfl, .inl rfl⟩)
      · obtain ⟨found, rfl⟩ := exists_object_of_readMembers read
        exact .inr (.inl ⟨found, rfl, .inr ⟨fuel, _, read⟩⟩)
    · split at read
      · cases read
        exact .inr (.inr ⟨by simp, by simp⟩)
      · obtain ⟨items, rfl⟩ := exists_array_of_readItems read
        exact .inr (.inr ⟨by simp, by simp⟩)
    · rename_i text _
      cases quoted : readString text <;> rw [quoted] at read <;> cases read
      exact .inr (.inr ⟨by simp, by simp⟩)
    · cases readWord_ok read
      exact .inr (.inr ⟨by simp, by simp⟩)
    · cases readWord_ok read
      exact .inr (.inr ⟨by simp, by simp⟩)
    · cases readWord_ok read
      exact .inr (.inr ⟨by simp, by simp⟩)
    · split_ifs at read
      · rename_i c more _ _ _ _ _ _ _ _
        cases number : readNumber (c :: more) <;> rw [number] at read <;> cases read
        exact .inl ⟨_, _, rfl, number⟩

theorem formed_of_readValue {fuel : ℕ} {v : Json} (read : readValue fuel cs = .ok (v, rest)) : Formed v := by
  intro n number finite
  subst number
  rcases readValue_cases read with ⟨n', start, same, number⟩ | ⟨found, object, _⟩ | ⟨other, _⟩
  · cases same
    exact hasForm_of_readNumber number finite
  · cases object
  · exact absurd rfl (other n)

theorem mem_setMember {name : String} {v : Json} {members : Members} {m : String × Json}
    (member : m ∈ setMember name v members) : m = (name, v) ∨ m ∈ members := by
  induction members with
  | nil => exact .inl (List.mem_singleton.1 member)
  | cons other members ih =>
    rw [setMember] at member
    split at member
    · exact (List.mem_cons.1 member).imp_right fun later => List.mem_cons_of_mem _ later
    · rcases List.mem_cons.1 member with first | later
      · exact .inr (first ▸ List.mem_cons_self)
      · exact (ih later).imp_right fun inside => List.mem_cons_of_mem _ inside

theorem formed_of_readMembers {fuel : ℕ} {seen found : Members} (formed : ∀ m ∈ seen, Formed m.2)
    (read : readMembers fuel seen cs = .ok (.object found, rest)) : ∀ m ∈ found, Formed m.2 := by
  induction fuel generalizing seen cs with
  | zero => cases read
  | succ fuel ih =>
    rw [readMembers] at read
    split at read
    · split at read
      · cases read
      · rename_i name _ _
        split at read
        · split at read
          · cases read
          · rename_i v _ value
            have formed' : ∀ m ∈ setMember name v seen, Formed m.2 := by
              intro m member
              rcases mem_setMember member with rfl | inside
              · exact formed_of_readValue value
              · exact formed m inside
            split at read
            · exact ih formed' read
            · cases read
              exact formed'
            · cases read
        · cases read
    · cases read

/-- The finite numbers among the members of an object that is read from a text have a form. -/
theorem formed_of_parse {s : String} {found : Members} (read : parse s = .ok (.object found)) :
    ∀ m ∈ found, Formed m.2 := by
  unfold parse at read
  simp only at read
  generalize 2 * s.toList.length + 1 = fuel at read
  split at read
  · cases read
  · rename_i value
    split at read
    · cases read
      rcases readValue_cases value with ⟨n, start, number, _⟩ | ⟨found', same, read⟩ | ⟨_, other⟩
      · cases number
      · cases same
        rcases read with rfl | ⟨fuel', start, members⟩
        · exact List.forall_mem_nil _
        · exact formed_of_readMembers (List.forall_mem_nil _) members
      · exact absurd rfl (other found)
    · cases read

-- A text that writes a value is read as the number of that value, and begins with a digit.
theorem readUnsigned_append {text : List Char} (writes : Writes text d.exact) (avoids : Avoids continuesNumber rest) :
    readUnsigned (text ++ rest) = .ok (d.toNumber, rest) := by
  obtain ⟨d', read, exact⟩ := writes rest avoids
  rw [readUnsigned, numberFault?_eq_none read avoids, read]
  simp only
  rw [Decimal.toNumber_congr exact]

theorem exists_digit_of_writes {text : List Char} {value : ℚ} (writes : Writes text value) :
    ∃ c more, text = c :: more ∧ c.isDigit = true := by
  obtain ⟨d, read, _⟩ := writes [] (avoids_nil _)
  rw [List.append_nil] at read
  exact exists_digit_of_readDecimal read

-- The text of a number that is not negative writes a decimal that stands for it.
theorem exists_writes {q : ℚ} (nonneg : 0 ≤ q) (rounded : IsRounded q) :
    ∃ d : Decimal, Writes (finite q).chars d.exact ∧ d.toNumber = .finite q := by
  rcases nonneg.eq_or_lt with rfl | positive
  · refine ⟨⟨0, 0⟩, ?_, rfl⟩
    have form : Writes (['0'] ++ (pointed [] ++ [])) _ := writes_append (by simp) (by simp) (.inl rfl) endsNumber_nil
    simpa [pointed, Decimal.exact, chars, natOfDigits] using form
  · refine ⟨shortestDecimal q, ?_, toNumber_shortestDecimal positive rounded⟩
    rw [chars, if_neg positive.ne', if_neg positive.not_gt]
    exact writes_positiveText positive rounded

theorem chars_of_neg {q : ℚ} (negative : q < 0) : (finite q).chars = '-' :: (finite (-q)).chars := by
  have positive : 0 < -q := neg_pos.2 negative
  rw [chars, chars, if_neg negative.ne, if_pos negative, if_neg positive.ne', if_neg positive.not_gt]

/-- The text of a number is read back, up to what cannot go on with it. -/
theorem readNumber_numberChars (form : n.HasForm) (avoids : Avoids continuesNumber rest) :
    readNumber (numberChars n ++ rest) = .ok (n, rest) := by
  cases n with
  | infinite negative => exact form.elim
  | undefined => exact form.elim
  | finite q =>
    rw [numberChars]
    rcases lt_or_ge q 0 with negative | nonneg
    · rw [Number.HasForm, abs_of_neg negative] at form
      obtain ⟨d, writes, value⟩ := exists_writes (neg_nonneg.2 negative.le) form
      rw [chars_of_neg negative, List.cons_append, readNumber, readUnsigned_append writes avoids, value]
      simp [Except.map, Number.negate]
    · rw [Number.HasForm, abs_of_nonneg nonneg] at form
      obtain ⟨d, writes, value⟩ := exists_writes nonneg form
      have read := readUnsigned_append writes avoids
      rw [value] at read
      obtain ⟨c, more, text, digit⟩ := exists_digit_of_writes writes
      rw [text, List.cons_append] at read ⊢
      unfold readNumber
      split
      · rename_i sign
        cases sign
        contradiction
      · exact read

theorem exists_numberChars_cons (form : n.HasForm) :
    ∃ c more, numberChars n = c :: more ∧ (c == '-' || c.isDigit) = true := by
  cases n with
  | infinite negative => exact form.elim
  | undefined => exact form.elim
  | finite q =>
    rw [numberChars]
    rcases lt_or_ge q 0 with negative | nonneg
    · exact ⟨'-', _, chars_of_neg negative, rfl⟩
    · rw [Number.HasForm, abs_of_nonneg nonneg] at form
      obtain ⟨d, writes, _⟩ := exists_writes nonneg form
      obtain ⟨c, more, text, digit⟩ := exists_digit_of_writes writes
      exact ⟨c, more, text, by simp [digit]⟩

end Wheelhouse.Json
