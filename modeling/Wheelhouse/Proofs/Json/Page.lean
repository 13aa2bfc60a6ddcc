import Mathlib.Data.List.Forall2
import Wheelhouse.Proofs.Json.Number
import Wheelhouse.Proofs.Json.Quotation

/-!
A value that is written over several lines is read back. Its numbers must be finite, since others have no
text, and an object must not have two members of one name, since the later one would replace the earlier one.
-/

set_option autoImplicit false

namespace Wheelhouse.Json

open Number (continuesNumber)

mutual

def IsLegible : Json → Prop
  | .number n => n.HasForm
  | .string s => Text.IsWhole s.toList
  | .array items => AreLegible items
  | .object members => (members.map Prod.fst).Nodup ∧ HasLegible members
  | _ => True

def AreLegible : List Json → Prop
  | [] => True
  | item :: rest => IsLegible item ∧ AreLegible rest

def HasLegible : List (String × Json) → Prop
  | [] => True
  | (name, value) :: rest => Text.IsWhole name.toList ∧ IsLegible value ∧ HasLegible rest

end

theorem skipSpace_cons {c : Char} (cs : List Char) (h : isSpace c = false) :
    skipSpace (c :: cs) = c :: cs := by
  rw [skipSpace, List.dropWhile_cons_of_neg (by simp [h])]

theorem skipSpace_newLine (level : Nat) (cs : List Char) :
    skipSpace (newLine level ++ cs) = skipSpace cs := by
  have blanks (n : Nat) : skipSpace (List.replicate n ' ' ++ cs) = skipSpace cs := by
    induction n with
    | zero => rfl
    | succ n ih =>
      rw [List.replicate_succ, List.cons_append, skipSpace, List.dropWhile_cons_of_pos (by decide)]
      exact ih
  rw [newLine, List.cons_append, skipSpace, List.dropWhile_cons_of_pos (by decide)]
  exact blanks _

-- A text stands for a value: wherever it begins, it is read as that value, unless what follows goes on with a
-- number.
structure Reads (v : Json) (text : List Char) : Prop where
  head : ∃ c cs, text = c :: cs ∧ isSpace c = false ∧ c ≠ ']'
  read : ∀ fuel cs rest, text.length ≤ fuel → Avoids continuesNumber rest → skipSpace cs = text ++ rest →
    readValue fuel cs = .ok (v, rest)

def ReadsMember (m : String × Json) (text : List Char) : Prop :=
  Text.IsWhole m.1.toList ∧ ∃ value, Reads m.2 value ∧ text = quote m.1 ++ ':' :: ' ' :: value

theorem Reads.skipSpace_append {v : Json} {text : List Char} (h : Reads v text) (rest : List Char) :
    skipSpace (text ++ rest) = text ++ rest := by
  obtain ⟨c, cs, rfl, visible, _⟩ := h.head
  exact skipSpace_cons _ visible

theorem ReadsMember.skipSpace_append {m : String × Json} {text : List Char} (h : ReadsMember m text)
    (rest : List Char) : skipSpace (text ++ rest) = text ++ rest := by
  obtain ⟨_, value, _, rfl⟩ := h
  exact skipSpace_cons _ (by decide)

theorem join_head (sep f : List Char) (fs : List (List Char)) :
    ∃ more, Text.join sep (f :: fs) = f ++ more := by
  cases fs with
  | nil => exact ⟨[], by simp [Text.join]⟩
  | cons g gs => exact ⟨sep ++ Text.join sep (g :: gs), by simp [Text.join]⟩

theorem avoids_newLine (level : Nat) (cs : List Char) : Avoids continuesNumber (newLine level ++ cs) := by
  rw [newLine, List.cons_append, avoids_cons]
  decide

theorem avoids_comma {cs : List Char} : Avoids continuesNumber (',' :: cs) := avoids_cons.2 (by decide)

theorem readItems_join {items : List Json} {parts : List (List Char)} (others : List.Forall₂ Reads items parts)
    (level close : Nat) (tail : List Char) {v : Json} {text : List Char} (first : Reads v text) (fuel : Nat)
    (seen : List Json) (cs : List Char)
    (start : skipSpace cs =
      Text.join (',' :: newLine level) (text :: parts) ++ (newLine close ++ ']' :: tail))
    (enough : (Text.join (',' :: newLine level) (text :: parts)).length < fuel) :
    readItems fuel seen cs = .ok (.array (seen.reverse ++ v :: items), tail) := by
  induction others generalizing v text fuel seen cs with
  | nil =>
    obtain ⟨fuel, rfl⟩ := Nat.exists_eq_succ_of_ne_zero (Nat.ne_of_gt (Nat.zero_lt_of_lt enough))
    rw [readItems, first.read fuel cs _ (Nat.le_of_lt_succ enough) (avoids_newLine close _) start]
    simp only [skipSpace_newLine, skipSpace_cons tail (show isSpace ']' = false by decide)]
    simp
  | @cons item part items parts one others ih =>
    obtain ⟨fuel, rfl⟩ := Nat.exists_eq_succ_of_ne_zero (Nat.ne_of_gt (Nat.zero_lt_of_lt enough))
    rw [Text.join_cons_cons] at start enough
    simp only [List.append_assoc, List.cons_append, List.length_append, List.length_cons] at start enough
    rw [readItems, first.read fuel cs _ (by omega) avoids_comma start]
    simp only [skipSpace_cons _ (show isSpace ',' = false by decide)]
    obtain ⟨more, joined⟩ := join_head (',' :: newLine level) part parts
    rw [ih one fuel (v :: seen) _ ?_ (by omega)]
    · simp
    · rw [skipSpace_newLine, joined, List.append_assoc, one.skipSpace_append]

theorem setMember_of_not_mem {name : String} {members : Members} (v : Json)
    (fresh : name ∉ members.map Prod.fst) : setMember name v members = members ++ [(name, v)] := by
  induction members with
  | nil => rfl
  | cons m rest ih =>
    rw [List.map_cons, List.mem_cons, not_or] at fresh
    rw [setMember, if_neg (Ne.symm fresh.1), ih fresh.2, List.cons_append]

-- How the reading goes on behind a member.
def afterMember (fuel : Nat) (seen : Members) : List Char → Reading Json
  | ',' :: after => readMembers fuel seen after
  | '\x7d' :: after => .ok (.object seen, after)
  | after => .error ⟨.openObject, after⟩

theorem readMembers_member {m : String × Json} {text : List Char} (h : ReadsMember m text) (fuel : Nat)
    (seen : Members) (cs rest : List Char) (enough : text.length ≤ fuel) (avoids : Avoids continuesNumber rest)
    (start : skipSpace cs = text ++ rest) :
    readMembers (fuel + 1) seen cs = afterMember fuel (setMember m.1 m.2 seen) (skipSpace rest) := by
  obtain ⟨name, v⟩ := m
  obtain ⟨whole, value, reads, rfl⟩ := h
  simp only [quote, List.cons_append, List.append_assoc, List.nil_append, List.length_cons,
    List.length_append] at start enough
  have blank : skipSpace (' ' :: (value ++ rest)) = value ++ rest := by
    rw [skipSpace, List.dropWhile_cons_of_pos (by decide)]
    exact reads.skipSpace_append rest
  have found : readValue fuel (' ' :: (value ++ rest)) = .ok (v, rest) :=
    reads.read fuel _ rest (by omega) avoids blank
  rw [readMembers, start]
  simp only [readString_quote whole, skipSpace_cons _ (show isSpace ':' = false by decide), found]
  rfl

theorem fresh_of_nodup {seen members : Members} {m : String × Json}
    (apart : ((seen ++ m :: members).map Prod.fst).Nodup) : m.1 ∉ seen.map Prod.fst := by
  rw [List.map_append, List.map_cons, List.nodup_append] at apart
  exact fun inside => apart.2.2 m.1 inside m.1 List.mem_cons_self rfl

theorem readMembers_join {members : Members} {parts : List (List Char)}
    (others : List.Forall₂ ReadsMember members parts) (level close : Nat) (tail : List Char)
    {m : String × Json} {text : List Char} (first : ReadsMember m text) (fuel : Nat) (seen : Members)
    (cs : List Char)
    (start : skipSpace cs =
      Text.join (',' :: newLine level) (text :: parts) ++ (newLine close ++ '\x7d' :: tail))
    (enough : (Text.join (',' :: newLine level) (text :: parts)).length < fuel)
    (apart : ((seen ++ m :: members).map Prod.fst).Nodup) :
    readMembers fuel seen cs = .ok (.object (seen ++ m :: members), tail) := by
  induction others generalizing m text fuel seen cs with
  | nil =>
    obtain ⟨fuel, rfl⟩ := Nat.exists_eq_succ_of_ne_zero (Nat.ne_of_gt (Nat.zero_lt_of_lt enough))
    rw [readMembers_member first fuel seen cs _ (Nat.le_of_lt_succ enough) (avoids_newLine close _) start]
    simp only [skipSpace_newLine, skipSpace_cons tail (show isSpace '\x7d' = false by decide),
      setMember_of_not_mem m.2 (fresh_of_nodup apart), afterMember]
  | @cons other part members parts one others ih =>
    obtain ⟨fuel, rfl⟩ := Nat.exists_eq_succ_of_ne_zero (Nat.ne_of_gt (Nat.zero_lt_of_lt enough))
    rw [Text.join_cons_cons] at start enough
    simp only [List.append_assoc, List.cons_append, List.length_append, List.length_cons] at start enough
    rw [readMembers_member first fuel seen cs _ (by omega) avoids_comma start]
    simp only [skipSpace_cons _ (show isSpace ',' = false by decide),
      setMember_of_not_mem m.2 (fresh_of_nodup apart), afterMember]
    obtain ⟨more, joined⟩ := join_head (',' :: newLine level) part parts
    rw [ih one fuel (seen ++ [(m.1, m.2)]) _ ?_ (by omega) (by simpa using apart)]
    · simp
    · rw [skipSpace_newLine, joined, List.append_assoc, one.skipSpace_append]

theorem length_block (left right : Char) (level : Nat) {parts : List (List Char)} (filled : parts ≠ []) :
    (Text.join (',' :: newLine (level + 1)) parts).length + 2 ≤ (block left right level parts).length := by
  rw [block, if_neg (by simpa using filled)]
  simp only [List.length_cons, List.length_append, List.length_nil]
  omega

theorem reads_array {items : List Json} {parts : List (List Char)} (level : Nat)
    (each : List.Forall₂ Reads items parts) : Reads (.array items) (block '[' ']' level parts) := by
  cases each with
  | nil =>
    refine ⟨⟨'[', [']'], rfl, by decide, by decide⟩, fun fuel cs rest enough _ start => ?_⟩
    obtain ⟨fuel, rfl⟩ := Nat.exists_eq_succ_of_ne_zero (Nat.ne_of_gt (Nat.zero_lt_of_lt enough))
    rw [readValue, start]
    rfl
  | @cons v text items parts first others =>
    have shape : block '[' ']' level (text :: parts) = '[' :: (newLine (level + 1) ++
        Text.join (',' :: newLine (level + 1)) (text :: parts) ++ newLine level ++ [']']) := rfl
    have longer := length_block '[' ']' level (List.cons_ne_nil text parts)
    refine ⟨⟨'[', _, shape, by decide, by decide⟩, fun fuel cs rest enough _ start => ?_⟩
    obtain ⟨fuel, rfl⟩ := Nat.exists_eq_succ_of_ne_zero (Nat.ne_of_gt (by omega : 0 < fuel))
    rw [shape] at start
    simp only [List.cons_append, List.append_assoc, List.nil_append] at start
    obtain ⟨more, joined⟩ := join_head (',' :: newLine (level + 1)) text parts
    obtain ⟨c, cs', rfl, visible, unclosed⟩ := first.head
    have inner : skipSpace (newLine (level + 1) ++
          (Text.join (',' :: newLine (level + 1)) ((c :: cs') :: parts) ++ (newLine level ++ ']' :: rest))) =
        Text.join (',' :: newLine (level + 1)) ((c :: cs') :: parts) ++ (newLine level ++ ']' :: rest) := by
      rw [skipSpace_newLine, joined, List.append_assoc, first.skipSpace_append]
    rw [readValue, start]
    simp only
    rw [inner]
    have read := readItems_join others (level + 1) level rest first fuel []
      (Text.join (',' :: newLine (level + 1)) ((c :: cs') :: parts) ++ (newLine level ++ ']' :: rest))
      (by rw [joined, List.append_assoc, first.skipSpace_append]) (by omega)
    rw [List.reverse_nil, List.nil_append] at read
    rw [← read]
    split
    · rename_i after close
      rw [joined] at close
      exact absurd (List.cons.inj close).1 unclosed
    · rfl

theorem reads_object {members : Members} {parts : List (List Char)} (level : Nat)
    (each : List.Forall₂ ReadsMember members parts) (apart : (members.map Prod.fst).Nodup) :
    Reads (.object members) (block '\x7b' '\x7d' level parts) := by
  cases each with
  | nil =>
    refine ⟨⟨'\x7b', ['\x7d'], rfl, by decide, by decide⟩, fun fuel cs rest enough _ start => ?_⟩
    obtain ⟨fuel, rfl⟩ := Nat.exists_eq_succ_of_ne_zero (Nat.ne_of_gt (Nat.zero_lt_of_lt enough))
    rw [readValue, start]
    rfl
  | @cons m text members parts first others =>
    have shape : block '\x7b' '\x7d' level (text :: parts) = '\x7b' :: (newLine (level + 1) ++
        Text.join (',' :: newLine (level + 1)) (text :: parts) ++ newLine level ++ ['\x7d']) := rfl
    have longer := length_block '\x7b' '\x7d' level (List.cons_ne_nil text parts)
    refine ⟨⟨'\x7b', _, shape, by decide, by decide⟩, fun fuel cs rest enough _ start => ?_⟩
    obtain ⟨fuel, rfl⟩ := Nat.exists_eq_succ_of_ne_zero (Nat.ne_of_gt (by omega : 0 < fuel))
    rw [shape] at start
    simp only [List.cons_append, List.append_assoc, List.nil_append] at start
    obtain ⟨more, joined⟩ := join_head (',' :: newLine (level + 1)) text parts
    have inner : skipSpace (newLine (level + 1) ++
          (Text.join (',' :: newLine (level + 1)) (text :: parts) ++ (newLine level ++ '\x7d' :: rest))) =
        Text.join (',' :: newLine (level + 1)) (text :: parts) ++ (newLine level ++ '\x7d' :: rest) := by
      rw [skipSpace_newLine, joined, List.append_assoc, first.skipSpace_append]
    rw [readValue, start]
    simp only
    rw [inner]
    have read := readMembers_join others (level + 1) level rest first fuel []
      (Text.join (',' :: newLine (level + 1)) (text :: parts) ++ (newLine level ++ '\x7d' :: rest))
      (by rw [joined, List.append_assoc, first.skipSpace_append]) (by omega) (by simpa using apart)
    rw [List.nil_append] at read
    rw [← read]
    obtain ⟨_, value, _, rfl⟩ := first
    split
    · rename_i after close
      rw [joined] at close
      exact absurd (List.cons.inj close).1 (by decide)
    · rfl

theorem reads_string {s : String} (whole : Text.IsWhole s.toList) : Reads (.string s) (quote s) := by
  refine ⟨⟨'"', _, rfl, by decide, by decide⟩, fun fuel cs rest enough _ start => ?_⟩
  obtain ⟨fuel, rfl⟩ := Nat.exists_eq_succ_of_ne_zero (Nat.ne_of_gt (Nat.zero_lt_of_lt enough))
  rw [quote, List.cons_append, List.append_assoc, List.singleton_append] at start
  rw [readValue, start]
  simp only [readString_quote whole]
  rfl

theorem reads_null : Reads .null "null".toList := by
  refine ⟨⟨'n', ['u', 'l', 'l'], rfl, by decide, by decide⟩, fun fuel cs rest enough _ start => ?_⟩
  obtain ⟨fuel, rfl⟩ := Nat.exists_eq_succ_of_ne_zero (Nat.ne_of_gt (Nat.zero_lt_of_lt enough))
  rw [readValue, start]
  rfl

theorem reads_bool (b : Bool) : Reads (.bool b) (if b then "true" else "false").toList := by
  cases b with
  | true =>
    refine ⟨⟨'t', ['r', 'u', 'e'], rfl, by decide, by decide⟩, fun fuel cs rest enough _ start => ?_⟩
    obtain ⟨fuel, rfl⟩ := Nat.exists_eq_succ_of_ne_zero (Nat.ne_of_gt (Nat.zero_lt_of_lt enough))
    rw [readValue, start]
    rfl
  | false =>
    refine ⟨⟨'f', ['a', 'l', 's', 'e'], rfl, by decide, by decide⟩, fun fuel cs rest enough _ start => ?_⟩
    obtain ⟨fuel, rfl⟩ := Nat.exists_eq_succ_of_ne_zero (Nat.ne_of_gt (Nat.zero_lt_of_lt enough))
    rw [readValue, start]
    rfl

theorem isSpace_of_digit {c : Char} (start : (c == '-' || c.isDigit) = true) : isSpace c = false := by
  by_contra space
  simp only [isSpace, Bool.not_eq_false, Bool.or_eq_true, beq_iff_eq] at space
  rcases space with ((rfl | rfl) | rfl) | rfl <;> exact absurd start (by decide)

theorem reads_number {n : Number} (form : n.HasForm) : Reads (.number n) (numberChars n) := by
  obtain ⟨c, more, text, digit⟩ := exists_numberChars_cons form
  have other : c ≠ ']' := by
    rintro rfl
    exact absurd digit (by decide)
  refine ⟨⟨c, more, text, isSpace_of_digit digit, other⟩, fun fuel cs rest enough avoids start => ?_⟩
  obtain ⟨fuel, rfl⟩ := Nat.exists_eq_succ_of_ne_zero (Nat.ne_of_gt (Nat.zero_lt_of_lt (text ▸ enough)))
  have read := readNumber_numberChars form avoids
  rw [text, List.cons_append] at start read
  rw [readValue, start]
  split
  · contradiction
  all_goals rename_i first; obtain ⟨rfl, rfl⟩ := List.cons.inj first
  iterate 6 exact absurd digit (by decide)
  rw [if_pos digit, read]
  rfl

mutual

theorem reads_indented : (v : Json) → (level : Nat) → IsLegible v → Reads v (indented level v)
  | .null, _, _ => reads_null
  | .bool b, _, _ => reads_bool b
  | .number _, _, legible => reads_number legible
  | .string _, _, legible => reads_string legible
  | .array items, level, legible => reads_array level (reads_indentedItems items (level + 1) legible)
  | .object members, level, legible =>
    reads_object level (reads_indentedMembers members (level + 1) legible.2) legible.1

theorem reads_indentedItems : (items : List Json) → (level : Nat) → AreLegible items →
    List.Forall₂ Reads items (indentedItems level items)
  | [], _, _ => .nil
  | item :: rest, level, legible =>
    .cons (reads_indented item level legible.1) (reads_indentedItems rest level legible.2)

theorem reads_indentedMembers : (members : List (String × Json)) → (level : Nat) → HasLegible members →
    List.Forall₂ ReadsMember members (indentedMembers level members)
  | [], _, _ => .nil
  | (_, value) :: rest, level, legible =>
    .cons ⟨legible.1, _, reads_indented value level legible.2.1, rfl⟩
      (reads_indentedMembers rest level legible.2.2)

end

/-- A value that is written over several lines is read back, also with white space after it. -/
theorem parse_page_append {v : Json} (legible : IsLegible v) (blanks : String)
    (blank : ∀ c ∈ blanks.toList, isSpace c = true) : parse (v.page ++ blanks) = .ok v := by
  have reads := reads_indented v 0 legible
  have avoids : Avoids continuesNumber blanks.toList := by
    intro c first
    have space := blank c (List.mem_of_mem_head? first)
    simp only [isSpace, Bool.or_eq_true, beq_iff_eq] at space
    rcases space with ((rfl | rfl) | rfl) | rfl <;> decide
  have ended : skipSpace blanks.toList = [] := List.dropWhile_eq_nil_iff.2 blank
  rw [parse, page, String.toList_append, String.toList_ofList,
    reads.read _ _ blanks.toList (by rw [List.length_append]; omega) avoids (reads.skipSpace_append _)]
  simp only [ended]

theorem parse_page {v : Json} (legible : IsLegible v) : parse v.page = .ok v := by
  rw [← String.append_empty (s := v.page)]
  exact parse_page_append legible "" (by simp)

end Wheelhouse.Json
