import Wheelhouse.Proofs.Json.Quotation

/-!
The text of a value on one line tells the value, and where in a longer text it ends. Only values that are
made of texts and lists are looked at; whether the texts are whole does not matter here, since a half of a
surrogate pair is written in another way than a character.
-/

set_option autoImplicit false

namespace Wheelhouse

theorem Text.join_cons (sep f : List Char) (fs : List (List Char)) :
    join sep (f :: fs) = f ++ fs.flatMap (sep ++ ·) := by
  induction fs generalizing f with
  | nil => simp [join]
  | cons g gs ih => rw [join_cons_cons, ih g, List.flatMap_cons, List.append_assoc, List.append_assoc]

namespace Json

variable {rest rest' : List Char}

theorem numbered_append_inj {u u' : Nat} (bound : u < 65536) (bound' : u' < 65536)
    (same : numbered u ++ rest = numbered u' ++ rest') : u = u' ∧ rest = rest' := by
  have digits := (List.cons.inj (List.cons.inj same).2).2
  have read := congrArg readUnit digits
  simp only [List.append_eq, List.cons_append, List.nil_append] at read
  rw [readUnit_digits bound, readUnit_digits bound', Except.ok.injEq, Prod.mk.injEq] at read
  exact read

-- A character is known from how it is written, and so is the end of its text.
theorem Written.append_inj {c d : Char} {text text' : List Char} (written : Written c text)
    (written' : Written d text') (same : text ++ rest = text' ++ rest') : c = d ∧ rest = rest' := by
  cases written with
  | letter stands other =>
    cases written' with
    | letter stands' other' =>
      obtain ⟨letter, ends⟩ := List.cons.inj (List.cons.inj same).2
      rw [letter, stands', Option.some.injEq] at stands
      exact ⟨stands.symm, ends⟩
    | number => exact absurd (List.cons.inj (List.cons.inj same).2).1 other
    | plain _ unescaped _ => exact absurd (List.cons.inj same).1.symm unescaped
  | number bound unit _ _ =>
    cases written' with
    | letter _ other => exact absurd (List.cons.inj (List.cons.inj same).2).1.symm other
    | number bound' unit' _ _ =>
      obtain ⟨rfl, ends⟩ := numbered_append_inj bound bound' same
      exact ⟨unit.symm.trans unit', ends⟩
    | plain _ unescaped _ => exact absurd (List.cons.inj same).1.symm unescaped
  | plain _ unescaped _ =>
    cases written' with
    | letter => exact absurd (List.cons.inj same).1 unescaped
    | number => exact absurd (List.cons.inj same).1 unescaped
    | plain => exact List.cons.inj same

theorem Written.head_ne_quote {c : Char} {text : List Char} (written : Written c text) :
    text ++ rest ≠ '"' :: rest' := by
  intro same
  cases written with
  | letter => exact absurd (List.cons.inj same).1 (by decide)
  | number => exact absurd (List.cons.inj same).1 (by decide)
  | plain unquoted _ _ => exact absurd (List.cons.inj same).1 unquoted

theorem flatMap_escape_append_inj {cs ds : List Char}
    (same : cs.flatMap escape ++ '"' :: rest = ds.flatMap escape ++ '"' :: rest') : cs = ds ∧ rest = rest' := by
  induction cs generalizing ds with
  | nil =>
    cases ds with
    | nil => exact ⟨rfl, (List.cons.inj same).2⟩
    | cons d ds =>
      rw [List.flatMap_cons, List.append_assoc] at same
      exact absurd same.symm (written_escape d).head_ne_quote
  | cons c cs ih =>
    rw [List.flatMap_cons, List.append_assoc] at same
    cases ds with
    | nil => exact absurd same (written_escape c).head_ne_quote
    | cons d ds =>
      rw [List.flatMap_cons, List.append_assoc] at same
      obtain ⟨rfl, later⟩ := (written_escape c).append_inj (written_escape d) same
      obtain ⟨rfl, ends⟩ := ih later
      exact ⟨rfl, ends⟩

theorem quote_append_inj {s t : String} (same : quote s ++ rest = quote t ++ rest') : s = t ∧ rest = rest' := by
  simp only [quote, List.cons_append, List.append_assoc, List.nil_append, List.cons.injEq, true_and] at same
  obtain ⟨chars, ends⟩ := flatMap_escape_append_inj same
  exact ⟨String.toList_inj.1 chars, ends⟩

mutual

def IsTextual : Json → Prop
  | .string _ => True
  | .array items => AreTextual items
  | _ => False

def AreTextual : List Json → Prop
  | [] => True
  | item :: rest => IsTextual item ∧ AreTextual rest

end

theorem areTextual_iff {items : List Json} : AreTextual items ↔ ∀ item ∈ items, IsTextual item := by
  induction items with
  | nil => simp [AreTextual]
  | cons item items ih => simp [AreTextual, ih]

theorem compactItems_eq (items : List Json) : compactItems items = items.map compact := by
  induction items with
  | nil => rfl
  | cons item items ih => rw [compactItems, ih, List.map_cons]

-- Where the text of a value stands no other value has a text that stands there too.
def IsTold (v : Json) : Prop :=
  ∀ v' rest rest', IsTextual v' → compact v ++ rest = compact v' ++ rest' → v = v' ∧ rest = rest'

theorem compact_ne_bracket {v : Json} (textual : IsTextual v) : compact v ++ rest ≠ ']' :: rest' := by
  intro same
  cases v with
  | string s => exact absurd (List.cons.inj same).1 (by decide)
  | array items => exact absurd (List.cons.inj same).1 (by decide)
  | _ => exact textual

-- The items of a list behind its first one.
theorem laterItems_inj {items items' : List Json} (told : ∀ item ∈ items, IsTold item)
    (textual : ∀ item ∈ items', IsTextual item)
    (same : (items.map compact).flatMap ([','] ++ ·) ++ ']' :: rest =
      (items'.map compact).flatMap ([','] ++ ·) ++ ']' :: rest') : items = items' ∧ rest = rest' := by
  induction items generalizing items' with
  | nil =>
    cases items' with
    | nil => exact ⟨rfl, (List.cons.inj same).2⟩
    | cons item' items' => exact absurd (List.cons.inj same).1 (by decide)
  | cons item items ih =>
    cases items' with
    | nil => exact absurd (List.cons.inj same).1 (by decide)
    | cons item' items' =>
      simp only [List.map_cons, List.flatMap_cons, List.append_assoc, List.cons_append, List.nil_append,
        List.cons.injEq, true_and] at same
      obtain ⟨rfl, later⟩ := told item List.mem_cons_self item' _ _ (textual item' List.mem_cons_self) same
      obtain ⟨rfl, ends⟩ := ih (fun i inside => told i (List.mem_cons_of_mem _ inside))
        (fun i inside => textual i (List.mem_cons_of_mem _ inside)) later
      exact ⟨rfl, ends⟩

theorem items_inj {items items' : List Json} (told : ∀ item ∈ items, IsTold item)
    (textual : ∀ item ∈ items, IsTextual item) (textual' : ∀ item ∈ items', IsTextual item)
    (same : Text.join [','] (items.map compact) ++ ']' :: rest =
      Text.join [','] (items'.map compact) ++ ']' :: rest') : items = items' ∧ rest = rest' := by
  cases items with
  | nil =>
    cases items' with
    | nil => exact ⟨rfl, (List.cons.inj same).2⟩
    | cons item' items' =>
      rw [List.map_cons, Text.join_cons, List.append_assoc] at same
      exact absurd same.symm (compact_ne_bracket (textual' item' List.mem_cons_self))
  | cons item items =>
    rw [List.map_cons, Text.join_cons, List.append_assoc] at same
    cases items' with
    | nil => exact absurd same (compact_ne_bracket (textual item List.mem_cons_self))
    | cons item' items' =>
      rw [List.map_cons, Text.join_cons, List.append_assoc] at same
      obtain ⟨rfl, later⟩ := told item List.mem_cons_self item' _ _ (textual' item' List.mem_cons_self) same
      obtain ⟨rfl, ends⟩ := laterItems_inj (fun i inside => told i (List.mem_cons_of_mem _ inside))
        (fun i inside => textual' i (List.mem_cons_of_mem _ inside)) later
      exact ⟨rfl, ends⟩

theorem isTold_string (s : String) : IsTold (.string s) := by
  intro v' rest rest' textual' same
  cases v' with
  | string s' => exact (quote_append_inj same).imp_left (congrArg _)
  | array items' => exact absurd (List.cons.inj same).1 (by decide)
  | _ => exact textual'.elim

theorem isTold_array {items : List Json} (textual : AreTextual items) (told : ∀ item ∈ items, IsTold item) :
    IsTold (.array items) := by
  intro v' rest rest' textual' same
  cases v' with
  | string s' => exact absurd (List.cons.inj same).1 (by decide)
  | array items' =>
    simp only [compact, List.cons_append, List.append_assoc, List.nil_append, List.cons.injEq, true_and,
      compactItems_eq] at same
    exact (items_inj told (areTextual_iff.1 textual) (areTextual_iff.1 textual') same).imp_left (congrArg _)
  | _ => exact textual'.elim

mutual

theorem isTold : (v : Json) → IsTextual v → IsTold v
  | .string s, _ => isTold_string s
  | .array items, textual => isTold_array textual (areTold items textual)
  | .null, textual => textual.elim
  | .bool _, textual => textual.elim
  | .number _, textual => textual.elim
  | .object _, textual => textual.elim

theorem areTold : (items : List Json) → AreTextual items → ∀ item ∈ items, IsTold item
  | [], _ => fun _ inside => absurd inside List.not_mem_nil
  | first :: items, textual => List.forall_mem_cons.2 ⟨isTold first textual.1, areTold items textual.2⟩

end

theorem line_inj {v v' : Json} (textual : IsTextual v) (textual' : IsTextual v') : v.line = v'.line ↔ v = v' := by
  refine ⟨fun same => ?_, congrArg _⟩
  have chars : compact v ++ [] = compact v' ++ [] := by
    rw [List.append_nil, List.append_nil]
    exact String.ofList_inj.1 same
  exact (isTold v textual v' [] [] textual' chars).1

end Json

end Wheelhouse
