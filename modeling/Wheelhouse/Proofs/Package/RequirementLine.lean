import Mathlib.Data.Bool.AllAny
import Wheelhouse.Proofs.Package.Specifier

/-!
Lines that ask for packages. A line is read without its comment, which starts at a number sign after a blank,
and gives back the parts that it was written with: the name, the extras, the specifier and the marker. A line
without a name in front asks for nothing.
-/

set_option autoImplicit false

namespace Wheelhouse

namespace Text

-- Blanks at the end of a text stand after its last visible character.
theorem trimEnd_append_cons {c : Char} (visible : isBlank c = false) (before after : List Char) :
    trimEnd (before ++ c :: after) = before ++ c :: trimEnd after := by
  have cut : ((c :: after).reverse.dropWhile isBlank).reverse = c :: trimEnd after := trimEnd_cons visible after
  have filled : ((c :: after).reverse.dropWhile isBlank) ≠ [] := by
    intro empty
    rw [empty] at cut
    cases cut
  rw [trimEnd, List.reverse_append, List.dropWhile_append, if_neg (by simpa using filled), List.reverse_append,
    List.reverse_reverse, cut]

theorem trimEnd_pad {cs : List Char} (pad : IsPad cs) : trimEnd cs = [] := by
  have blank : cs.reverse.dropWhile isBlank = [] :=
    List.dropWhile_eq_nil_iff.2 fun c inside => pad c (List.mem_reverse.1 inside)
  rw [trimEnd, blank, List.reverse_nil]

theorem IsPad.append {before after : List Char} (first : IsPad before) (last : IsPad after) :
    IsPad (before ++ after) := by
  intro c inside
  exact (List.mem_append.1 inside).elim (first c) (last c)

theorem removeBlanks_trimEnd (cs : List Char) : removeBlanks (trimEnd cs) = removeBlanks cs := by
  obtain ⟨after, pad, whole⟩ := exists_trimEnd_append cs
  have gone : removeBlanks after = [] := by
    simpa [removeBlanks, List.filter_eq_nil_iff, IsPad] using pad
  have split : removeBlanks cs = removeBlanks (trimEnd cs) ++ removeBlanks after := by
    rw [removeBlanks, removeBlanks, removeBlanks, ← List.filter_append, ← whole]
  rw [split, gone, List.append_nil]

theorem trim_ne_nil {cs : List Char} (filled : ∃ c ∈ cs, isBlank c = false) : trim cs ≠ [] := by
  obtain ⟨c, inside, visible⟩ := filled
  intro empty
  cases rest : cs.dropWhile isBlank with
  | nil =>
    have blank := List.dropWhile_eq_nil_iff.1 rest c inside
    rw [visible] at blank
    cases blank
  | cons d ds =>
    have seen : isBlank d = false := by
      have first := List.head_dropWhile_not isBlank (show cs.dropWhile isBlank ≠ [] by simp [rest])
      simpa [rest] using first
    rw [trim, rest, trimEnd_cons seen] at empty
    cases empty

end Text

namespace Requirement

/-- A number sign and a text on one line. -/
def IsComment (cs : List Char) : Prop := ∃ text, cs = '#' :: text ∧ ∀ c ∈ text, Text.isLineEnd c = false

theorem isComment_iff {cs : List Char} : isComment cs = true ↔ IsComment cs := by
  unfold isComment IsComment
  split
  · simp
  · rename_i other
    exact iff_of_false (by simp) fun ⟨text, marked, _⟩ => other text marked

/-- Whether a comment starts after a part of a line: at its start, or with the blank before the number sign. -/
def StartsComment (before after : List Char) : Prop :=
  before = [] ∧ IsComment after ∨ ∃ b comment, after = b :: comment ∧ Text.isBlank b = true ∧ IsComment comment

/-- What is left of a line without its comment, if it has one: the text before the first place where one starts. -/
structure Uncommented (cs text : List Char) : Prop where
  cut : ∃ comment, cs = text ++ comment ∧ (comment = [] ∨ StartsComment text comment)
  first : ∀ before after, cs = before ++ after → StartsComment before after → text.length ≤ before.length

section

variable {cs text text' : List Char}

theorem Uncommented.length_le (h : Uncommented cs text) (h' : Uncommented cs text') : text.length ≤ text'.length := by
  obtain ⟨comment, whole', empty | starts⟩ := h'.cut
  · obtain ⟨rest, whole, _⟩ := h.cut
    have lengths := congrArg List.length (whole.symm.trans whole')
    simp only [empty, List.length_append, List.length_nil] at lengths
    omega
  · exact h.first _ _ whole' starts

theorem Uncommented.unique (h : Uncommented cs text) (h' : Uncommented cs text') : text = text' := by
  obtain ⟨rest, whole, _⟩ := h.cut
  obtain ⟨rest', whole', _⟩ := h'.cut
  exact (List.append_inj (whole.symm.trans whole') (Nat.le_antisymm (h.length_le h') (h'.length_le h))).1

theorem beforeComment_cut (cs : List Char) :
    (∃ comment, cs = beforeComment cs ++ comment ∧
      (comment = [] ∨ ∃ b rest, comment = b :: rest ∧ Text.isBlank b = true ∧ IsComment rest)) ∧
    ∀ before b rest, cs = before ++ b :: rest → Text.isBlank b = true → IsComment rest →
      (beforeComment cs).length ≤ before.length := by
  induction cs with
  | nil => exact ⟨⟨[], rfl, .inl rfl⟩, by simp⟩
  | cons c cs ih =>
    obtain ⟨⟨comment, whole, shape⟩, first⟩ := ih
    rw [beforeComment]
    by_cases starts : (Text.isBlank c && isComment cs) = true
    · rw [if_pos starts]
      rw [Bool.and_eq_true, isComment_iff] at starts
      exact ⟨⟨c :: cs, rfl, .inr ⟨c, cs, rfl, starts⟩⟩, by simp⟩
    · rw [if_neg starts]
      refine ⟨⟨comment, by rw [List.cons_append, ← whole], shape⟩, ?_⟩
      intro before b rest split blank noted
      cases before with
      | nil =>
        obtain ⟨rfl, rfl⟩ := List.cons.inj split
        exact absurd (by simp [blank, isComment_iff.2 noted]) starts
      | cons d before =>
        exact Nat.succ_le_succ (first before b rest (List.cons.inj split).2 blank noted)

theorem uncommented_stripComment (cs : List Char) : Uncommented cs (stripComment cs) := by
  obtain ⟨⟨comment, whole, shape⟩, first⟩ := beforeComment_cut cs
  unfold stripComment
  by_cases noted : isComment cs = true
  · rw [if_pos noted]
    exact ⟨⟨cs, rfl, .inr (.inl ⟨rfl, isComment_iff.1 noted⟩)⟩, by simp⟩
  · rw [if_neg noted]
    refine ⟨⟨comment, whole, shape.imp id .inr⟩, ?_⟩
    rintro before after split (⟨rfl, starts⟩ | ⟨b, rest, rfl, blank, starts⟩)
    · rw [List.nil_append] at split
      exact absurd (isComment_iff.2 (split ▸ starts)) noted
    · exact first before b rest split blank starts

theorem stripComment_eq_iff : stripComment cs = text ↔ Uncommented cs text :=
  ⟨fun same => same ▸ uncommented_stripComment cs, (uncommented_stripComment cs).unique⟩

end

/-- The texts of extras: brackets without a closing one between them. -/
inductive WritesExtras : Option String → List Char → Prop
  | none : WritesExtras none []
  | some {inner : List Char} (whole : ']' ∉ inner) :
      WritesExtras (some (String.ofList ('[' :: (inner ++ [']'])))) ('[' :: (inner ++ [']']))

def specifierStarts : List Char := ['<', '>', '=', '!', '~', '(', '@']

/-- The texts of specifiers. There may be blanks in them and after them. -/
structure WritesSpecifier (specifier : String) (cs : List Char) : Prop where
  start : ∀ c, cs.head? = some c → c ∈ specifierStarts
  whole : ';' ∉ cs
  visible : specifier = String.ofList (Text.removeBlanks cs)

/-- The texts of markers: a semicolon and something that is not blank. -/
inductive WritesMarker : Option String → List Char → Prop
  | none : WritesMarker none []
  | some {marker : List Char} (filled : ∃ c ∈ marker, Text.isBlank c = false) :
      WritesMarker (some (String.ofList (Text.trim marker))) (';' :: marker)

/-- The texts of what a requirement has after its name. -/
inductive WritesRest (r : Requirement) : List Char → Prop
  | mk {first second extras specifier marker : List Char} (pads : Text.IsPad first ∧ Text.IsPad second)
      (bracketed : WritesExtras r.extras extras) (specified : WritesSpecifier r.specifier specifier)
      (marked : WritesMarker r.marker marker) :
      WritesRest r (first ++ (extras ++ (second ++ (specifier ++ marker))))

inductive WritesComment : List Char → Prop
  | none : WritesComment []
  | some {b : Char} {text : List Char} (blank : Text.isBlank b = true) : WritesComment (b :: '#' :: text)

/-- The lines that ask for a package: the parts of the requirement in their order with any blanks between them,
and perhaps a comment. No number sign stands after a blank before the comment. -/
inductive Writes (r : Requirement) : List Char → Prop
  | mk {pad rest comment : List Char} (padded : Text.IsPad pad) (named : PackageName.isName r.name = true)
      (written : WritesRest r rest) (noted : WritesComment comment)
      (plain : ∀ before b after, pad ++ (r.name.toList ++ rest) = before ++ b :: '#' :: after →
        Text.isBlank b = false)
      (unbroken : ∀ c ∈ pad ++ (r.name.toList ++ rest) ++ comment, Text.isLineEnd c = false) :
      Writes r (pad ++ (r.name.toList ++ rest) ++ comment)

section

variable {r : Requirement} {cs rest body comment extras specifier marker : List Char} {name : String}

-- The text before a comment, which has no other one in it.
theorem uncommented_append (filled : body ≠ []) (start : body.head? ≠ some '#') (noted : WritesComment comment)
    (plain : ∀ before b after, body = before ++ b :: '#' :: after → Text.isBlank b = false)
    (unbroken : ∀ c ∈ comment, Text.isLineEnd c = false) : Uncommented (body ++ comment) body := by
  constructor
  · refine ⟨comment, rfl, ?_⟩
    cases noted with
    | none => exact .inl rfl
    | @some b text blank =>
      exact .inr (.inr ⟨b, '#' :: text, rfl, blank, text, rfl, fun c inside => unbroken c (by simp [inside])⟩)
  · intro before after split starts
    by_contra short
    rcases starts with ⟨rfl, text, rfl, _⟩ | ⟨b, _, rfl, blank, text, rfl, _⟩
    · obtain ⟨c, cs, rfl⟩ := List.exists_cons_of_ne_nil filled
      exact start (congrArg some (List.cons.inj split).1)
    · rcases List.append_eq_append_iff.1 split with ⟨more, longer, _⟩ | ⟨more, inside, tail⟩
      · exact short (by rw [longer, List.length_append]; omega)
      · cases more with
        | nil => exact short (by rw [inside, List.append_nil])
        | cons d more =>
          obtain ⟨rfl, sign⟩ := List.cons.inj tail
          cases more with
          | nil =>
            change _ = comment at sign
            subst sign
            cases noted with
            | some marked => exact absurd marked (by decide)
          | cons e more =>
            obtain rfl := (List.cons.inj sign).1
            rw [plain before b more inside] at blank
            cases blank

theorem visible_of_mem_specifierStarts {c : Char} (starts : c ∈ specifierStarts) : Text.isBlank c = false := by
  have all : ∀ c ∈ specifierStarts, Text.isBlank c = false := List.all_iff_forall_prop.1 (by decide)
  exact all c starts

theorem WritesSpecifier.trimEnd (written : WritesSpecifier name cs) : WritesSpecifier name (Text.trimEnd cs) := by
  have sublist := (Text.trimEnd_prefix cs).sublist
  refine ⟨fun c start => written.start c ?_, fun inside => written.whole (sublist.subset inside), ?_⟩
  · obtain ⟨after, whole⟩ := Text.trimEnd_prefix cs
    rw [← whole, List.head?_append, start]
    rfl
  · rw [Text.removeBlanks_trimEnd, written.visible]

theorem WritesMarker.trimEnd {m : List Char} (filled : ∃ c ∈ m, Text.isBlank c = false) :
    WritesMarker (.some (String.ofList (Text.trim m))) (';' :: Text.trimEnd m) := by
  obtain ⟨c, inside, visible⟩ := filled
  obtain ⟨before, after, rfl⟩ := List.append_of_mem inside
  have seen : ∃ d ∈ Text.trimEnd (before ++ c :: after), Text.isBlank d = false := by
    rw [Text.trimEnd_append_cons visible]
    exact ⟨c, by simp, visible⟩
  have written := WritesMarker.some seen
  rwa [Text.trim_trimEnd] at written

theorem writesRest_nil (unmarked : r.extras = none ∧ r.marker = none) (empty : r.specifier = "") : WritesRest r [] := by
  obtain ⟨name, extras, specifier, marker⟩ := r
  obtain ⟨rfl, rfl⟩ := unmarked
  subst empty
  exact @WritesRest.mk ⟨name, none, "", none⟩ [] [] [] [] [] ⟨Text.isPad_nil, Text.isPad_nil⟩ .none
    ⟨by simp, by simp, rfl⟩ .none

-- Blanks at the end belong to the last part that is there, which is read without them.
theorem WritesRest.trimEnd (h : WritesRest r rest) : WritesRest r (Text.trimEnd rest) := by
  obtain ⟨name, extras', specifier', marker'⟩ := r
  cases h with
  | @mk first second extras specifier marker pads bracketed specified marked =>
    cases marked with
    | @some m filled =>
      have split : first ++ (extras ++ (second ++ (specifier ++ ';' :: m))) =
          (first ++ (extras ++ (second ++ specifier))) ++ ';' :: m := by simp
      rw [split, Text.trimEnd_append_cons (by decide)]
      simpa using WritesRest.mk pads bracketed specified (WritesMarker.trimEnd filled)
    | none =>
      cases specifier with
      | cons c cs =>
        have visible := visible_of_mem_specifierStarts (specified.start c rfl)
        have split : first ++ (extras ++ (second ++ (c :: cs ++ []))) = (first ++ (extras ++ second)) ++ c :: cs := by
          simp
        have shorter := specified.trimEnd
        rw [Text.trimEnd_cons visible] at shorter
        rw [split, Text.trimEnd_append_cons visible]
        simpa using WritesRest.mk (r := ⟨name, extras', specifier', none⟩) pads bracketed shorter .none
      | nil =>
        cases bracketed with
        | none =>
          rw [Text.trimEnd_pad (by simpa using pads.1.append pads.2)]
          exact writesRest_nil ⟨rfl, rfl⟩ specified.visible
        | @some inner whole =>
          have split : first ++ ('[' :: (inner ++ [']']) ++ (second ++ ([] ++ []))) =
              (first ++ '[' :: inner) ++ ']' :: second := by simp
          rw [split, Text.trimEnd_append_cons (by decide), Text.trimEnd_pad pads.2]
          simpa using WritesRest.mk (r := ⟨name, _, specifier', none⟩) ⟨pads.1, Text.isPad_nil⟩ (.some whole) specified .none

end

/-- Whether a text with no blanks around it starts with the name of a package. -/
def startsWithName (cs : List Char) : Bool :=
  !(cs.isEmpty || ['-'].isPrefixOf cs || isAddress cs) && cs.head?.any Char.isAlphanum

/-- The extras in front of a text, and what stands after them. -/
def splitExtras (cs : List Char) : Option String × List Char :=
  match readExtras cs with
  | some (extras, after) => (some (String.ofList extras), after.dropWhile Text.isBlank)
  | none => (none, cs)

/-- The requirement of a name and of what stands after it. -/
def ofRest (name rest : List Char) : Option Requirement :=
  let (extras, after) := splitExtras (rest.dropWhile Text.isBlank)
  if after.any Text.isLineEnd then none
  else
    some
      { name := String.ofList name
        extras
        specifier := String.ofList (Text.removeBlanks (Text.cut ';' after).1)
        marker := (Text.cut ';' after).2.bind fun m => nonEmpty (Text.trim m) }

theorem ofTrimmed_eq (cs : List Char) :
    ofTrimmed cs = if startsWithName cs then ofRest (spanName cs).1 (spanName cs).2 else none := by
  unfold ofTrimmed startsWithName
  by_cases other : (cs.isEmpty || ['-'].isPrefixOf cs || isAddress cs) = true
  · simp [other]
  · cases start : cs.head? with
    | none => simp [other]
    | some first =>
      by_cases letter : first.isAlphanum = true
      · rw [if_neg other]
        simp only [letter, other, Option.any_some, Bool.not_false, Bool.and_true, Bool.not_true, if_true, if_false,
          Bool.false_eq_true]
        rfl
      · simp [other, letter]

-- What cannot go on in a name or in the scheme of an address.
def EndsName (c : Char) : Prop := Text.isBlank c = true ∨ c ∈ '[' :: ';' :: specifierStarts

namespace EndsName

variable {c : Char}

theorem not_isPinChar (ends : EndsName c) (other : c ≠ '!' ∧ c ≠ '=') : ¬IsPinChar c := by
  intro pin
  rcases ends with blank | inside
  · rw [pin.visible] at blank
    cases blank
  · have all : ∀ c ∈ '[' :: ';' :: specifierStarts, c ≠ '!' ∧ c ≠ '=' →
        c.isAlphanum = false ∧ c ∉ ['.', '_', '-', '!', '+', '='] := List.all_iff_forall_prop.1 (by decide)
    obtain ⟨mark, missing⟩ := all c inside other
    rcases pin with letter | inside
    · rw [mark] at letter
      cases letter
    · exact missing inside

theorem not_isNameChar (ends : EndsName c) : PackageName.isNameChar c = false := by
  rw [Bool.eq_false_iff]
  intro letter
  refine ends.not_isPinChar ⟨?_, ?_⟩ (isPinChar_of_isNameChar letter) <;>
  · rintro rfl
    cases letter

theorem not_isScheme (ends : EndsName c) : (c.isAlpha || c == '+') = false := by
  rw [Bool.eq_false_iff]
  intro letter
  have pin : IsPinChar c := by
    simp only [Bool.or_eq_true, beq_iff_eq] at letter
    rcases letter with letter | rfl
    · exact .inl (by simp [Char.isAlphanum, letter])
    · exact .inr (by simp)
  refine ends.not_isPinChar ⟨?_, ?_⟩ pin <;>
  · rintro rfl
    cases letter

theorem ne (ends : EndsName c) : c ≠ ':' ∧ c ≠ '/' := by
  constructor <;>
  · rintro rfl
    rcases ends with blank | inside
    · cases blank
    · revert inside
      decide

end EndsName

section

variable {r : Requirement} {cs rest extras : List Char} {name : String} {c : Char}

theorem isAddress_append (ends : EndsName c) (cs rest : List Char) : isAddress (cs ++ c :: rest) = isAddress cs := by
  let scheme (c : Char) : Bool := c.isAlpha || c == '+'
  have stop : scheme c = false := ends.not_isScheme
  have start (ds : List Char) : [':', '/', '/'].isPrefixOf (ds ++ c :: rest) = [':', '/', '/'].isPrefixOf ds := by
    obtain ⟨colon, slash⟩ := ends.ne
    rcases ds with _ | ⟨d, _ | ⟨e, _ | ⟨f, ds⟩⟩⟩ <;> simp [List.isPrefixOf, colon.symm, slash.symm]
  have taken : (cs ++ c :: rest).takeWhile scheme = cs.takeWhile scheme := by
    rw [List.takeWhile_append]
    split
    · rename_i whole
      rw [List.takeWhile_cons, if_neg (by simp [stop]), List.append_nil]
      exact (List.takeWhile_prefix scheme).eq_of_length whole |>.symm
    · rfl
  have dropped : (cs ++ c :: rest).dropWhile scheme = cs.dropWhile scheme ++ c :: rest := by
    rw [List.dropWhile_append]
    split
    · rename_i empty
      rw [List.isEmpty_iff.1 empty, List.dropWhile_cons, if_neg (by simp [stop]), List.nil_append]
    · rfl
  change (!((cs ++ c :: rest).takeWhile scheme).isEmpty && [':', '/', '/'].isPrefixOf ((cs ++ c :: rest).dropWhile scheme)) = _
  rw [taken, dropped, start]
  rfl

theorem spanName_append (ends : EndsName c) (cs rest : List Char) :
    spanName (cs ++ c :: rest) = ((spanName cs).1, (spanName cs).2 ++ c :: rest) := by
  have run : (cs ++ c :: rest).takeWhile PackageName.isNameChar = cs.takeWhile PackageName.isNameChar := by
    rw [List.takeWhile_append]
    split
    · rename_i whole
      rw [List.takeWhile_cons, if_neg (by simp [ends.not_isNameChar]), List.append_nil]
      exact (List.takeWhile_prefix _).eq_of_length whole |>.symm
    · rfl
  have short : ((cs.takeWhile PackageName.isNameChar).reverse.dropWhile fun c => !c.isAlphanum).length ≤ cs.length :=
    calc
      _ ≤ (cs.takeWhile PackageName.isNameChar).reverse.length := (List.dropWhile_suffix _).length_le
      _ = (cs.takeWhile PackageName.isNameChar).length := List.length_reverse
      _ ≤ cs.length := (List.takeWhile_prefix _).length_le
  simp only [spanName, run]
  rw [List.drop_append_of_le_length (by rwa [List.length_reverse])]

theorem spanName_name (named : PackageName.isName name = true) : spanName name.toList = (name.toList, []) := by
  obtain ⟨_, ⟨init, last, whole, letter⟩, letters⟩ := PackageName.of_isSpelling named
  have ends : (name.toList.reverse.dropWhile fun c => !c.isAlphanum).reverse = name.toList := by
    rw [whole]
    simp [letter]
  simp [spanName, List.takeWhile_eq_self_iff.2 letters, ends]

theorem startsWithName_name (named : PackageName.isName name = true) : startsWithName name.toList = true := by
  obtain ⟨⟨first, others, whole, letter⟩, _, letters⟩ := PackageName.of_isSpelling named
  have address : isAddress name.toList = false :=
    isAddress_of_not_mem fun inside => (isPinChar_of_isNameChar (letters _ inside)).ne.2.2.1 rfl
  have other : '-' ≠ first := by
    rintro rfl
    cases letter
  simp only [startsWithName, address]
  simp [whole, letter, List.isPrefixOf, other]

theorem startsWithName_append (ends : EndsName c) (filled : cs ≠ []) (rest : List Char) :
    startsWithName (cs ++ c :: rest) = startsWithName cs := by
  have same := isAddress_append ends cs rest
  obtain ⟨d, ds, rfl⟩ := List.exists_cons_of_ne_nil filled
  simp only [List.cons_append] at same
  simp [startsWithName, same, List.isPrefixOf]

-- A name that is followed by something else is the name that is read.
theorem ofTrimmed_append (named : PackageName.isName name = true) (ends : ∀ c, rest.head? = some c → EndsName c) :
    ofTrimmed (name.toList ++ rest) = ofRest name.toList rest := by
  have starts := startsWithName_name named
  rw [ofTrimmed_eq]
  cases rest with
  | nil => rw [List.append_nil, starts, if_pos rfl, spanName_name named]
  | cons c rest =>
    have filled : name.toList ≠ [] := by
      intro empty
      rw [empty] at starts
      cases starts
    rw [startsWithName_append (ends c rfl) filled, starts, if_pos rfl, spanName_append (ends c rfl), spanName_name named]
    rfl

theorem WritesRest.endsName (written : WritesRest r rest) : ∀ c, rest.head? = some c → EndsName c := by
  obtain ⟨name, extras', specifier', marker'⟩ := r
  cases written with
  | @mk first second extras specifier marker pads bracketed specified marked =>
    have blank {ds es : List Char} (pad : Text.IsPad ds) (later : ∀ c, es.head? = some c → EndsName c) :
        ∀ c, (ds ++ es).head? = some c → EndsName c := by
      cases ds with
      | nil => exact later
      | cons d ds =>
        intro c start
        cases start
        exact .inl (pad d (by simp))
    have end_ : ∀ c, marker.head? = some c → EndsName c := by
      cases marked with
      | none => simp
      | some => simp [EndsName]
    have middle : ∀ c, (specifier ++ marker).head? = some c → EndsName c := by
      cases specifier with
      | nil => exact end_
      | cons d ds =>
        intro c start
        exact .inr (List.mem_cons_of_mem _ (List.mem_cons_of_mem _ (specified.start c start)))
    refine blank pads.1 ?_
    cases bracketed with
    | none =>
      change ∀ c, (second ++ (specifier ++ marker)).head? = some c → EndsName c
      exact blank pads.2 middle
    | some => simp [EndsName]

-- The extras and what stands after them, without the blanks before each.
theorem splitExtras_eq (bracketed : WritesExtras r.extras extras) {pad : List Char} (blank : Text.IsPad pad)
    (visible : ∀ c, rest.head? = some c → Text.isBlank c = false ∧ c ≠ '[') :
    splitExtras ((extras ++ (pad ++ rest)).dropWhile Text.isBlank) = (r.extras, rest) := by
  obtain ⟨name, extras', specifier', marker'⟩ := r
  have kept : rest.dropWhile Text.isBlank = rest := by
    cases rest with
    | nil => rfl
    | cons c rest => simp [(visible c rfl).1]
  cases bracketed with
  | none =>
    have closed : readExtras rest = none := by
      unfold readExtras
      split
      · exact absurd rfl (visible _ rfl).2
      · rfl
    rw [List.nil_append, List.dropWhile_append_of_pos blank, kept, splitExtras, closed]
  | @some inner whole =>
    have inside : ∀ c ∈ inner, (c != ']') = true := by
      intro c member
      simp only [bne_iff_ne]
      rintro rfl
      exact whole member
    have split : ('[' :: (inner ++ [']']) ++ (pad ++ rest)).dropWhile Text.isBlank =
        '[' :: (inner ++ ']' :: (pad ++ rest)) := by
      simp [show Text.isBlank '[' = false by decide]
    have read : readExtras ('[' :: (inner ++ ']' :: (pad ++ rest))) = some ('[' :: (inner ++ [']']), pad ++ rest) := by
      simp [readExtras, List.dropWhile_append_of_pos inside, List.takeWhile_append_of_pos inside]
    rw [split, splitExtras, read]
    simp [List.dropWhile_append_of_pos blank, kept]

theorem cut_of_writesMarker {marker : List Char} {marker' : Option String} (marked : WritesMarker marker' marker) (whole : ';' ∉ cs) :
    (Text.cut ';' (cs ++ marker)).1 = cs ∧
      (Text.cut ';' (cs ++ marker)).2.bind (fun m => nonEmpty (Text.trim m)) = marker' := by
  cases marked with
  | none =>
    rw [List.append_nil, Text.cut_of_not_mem whole]
    exact ⟨rfl, rfl⟩
  | some filled =>
    rw [Text.cut_append whole]
    exact ⟨rfl, by simp [nonEmpty, Text.trim_ne_nil filled]⟩

theorem ofRest_eq (written : WritesRest r rest) (unbroken : ∀ c ∈ rest, Text.isLineEnd c = false) :
    ofRest r.name.toList rest = some r := by
  obtain ⟨name, extras', specifier', marker'⟩ := r
  cases written with
  | @mk first second extras specifier marker pads bracketed specified marked =>
    have visible : ∀ c, (specifier ++ marker).head? = some c → Text.isBlank c = false ∧ c ≠ '[' := by
      have starts : ∀ c ∈ ';' :: specifierStarts, Text.isBlank c = false ∧ c ≠ '[' :=
        List.all_iff_forall_prop.1 (by decide)
      intro c start
      cases specifier with
      | nil => cases marked <;> cases start; decide
      | cons d ds => exact starts c (List.mem_cons_of_mem _ (specified.start c start))
    have ended : (specifier ++ marker).any Text.isLineEnd = false := by
      rw [List.any_eq_false]
      intro c inside
      simp [unbroken c (by simp [List.mem_append.1 inside])]
    obtain ⟨condition, conclusion⟩ := cut_of_writesMarker marked specified.whole
    rw [ofRest, List.dropWhile_append_of_pos pads.1, splitExtras_eq bracketed pads.2 visible]
    simp only [ended, condition, conclusion, ← specified.visible]
    simp

-- A line that is written for a requirement is read without its comment and without the blanks around the rest.
theorem ofTrimmed_of_writes (h : Writes r cs) : ofTrimmed (Text.trim (stripComment cs)) = some r := by
  cases h with
  | @mk pad rest comment padded named written noted plain unbroken =>
    obtain ⟨⟨first, others, whole, letter⟩, _, letters⟩ := PackageName.of_isSpelling named
    have visible : ∀ c ∈ r.name.toList, Text.isBlank c = false :=
      fun c inside => (isPinChar_of_isNameChar (letters c inside)).visible
    have start : (pad ++ (r.name.toList ++ rest)).head? ≠ some '#' := by
      rw [whole]
      cases pad with
      | nil =>
        rintro ⟨⟩
        cases letter
      | cons b bs =>
        rintro ⟨⟩
        exact absurd (padded '#' (by simp)) (by decide)
    have left := uncommented_append (by simp [whole]) start noted plain fun c inside => unbroken c (by simp [inside])
    have trimmed : Text.trim (pad ++ (r.name.toList ++ rest)) = r.name.toList ++ Text.trimEnd rest := by
      have padless := Text.trim_pad padded Text.isPad_nil (r.name.toList ++ rest)
      rw [List.append_nil] at padless
      rw [padless, ← Text.trimEnd_append visible, whole, List.cons_append, Text.trim_cons (visible first (by simp [whole])),
        Text.trimEnd_cons (visible first (by simp [whole]))]
    rw [stripComment_eq_iff.2 left, trimmed, ofTrimmed_append named written.trimEnd.endsName]
    refine ofRest_eq written.trimEnd fun c inside => unbroken c ?_
    simp [(Text.trimEnd_prefix rest).subset inside]

theorem parse?_pin {version : String} (named : PackageName.isName name = true)
    (versioned : Archive.isVersion version.toList = true) :
    parse? (pin name version) = some ⟨name, none, "==" ++ version, none⟩ := by
  have made {c : Char} (inside : c ∈ (pin name version).toList) := isPinChar_of_mem_pin named versioned inside
  have shape : (pin name version).toList = [] ++ (name.toList ++ ([] ++ ([] ++ ([] ++ (("==" ++ version).toList ++ []))))) ++ [] := by
    simp [pin]
  have condition {c : Char} (inside : c ∈ ("==" ++ version).toList) : IsPinChar c := made (by simp_all [pin])
  have specified : WritesSpecifier ("==" ++ version) ("==" ++ version).toList := by
    refine ⟨fun c start => ?_, fun inside => (condition inside).ne.2.2.2.1 rfl, ?_⟩
    · rw [String.toList_append] at start
      cases start
      decide
    · rw [Text.removeBlanks, List.filter_eq_self.2 fun c inside => by simp [(condition inside).visible],
        String.ofList_toList]
  have rest := WritesRest.mk (r := ⟨name, none, "==" ++ version, none⟩) ⟨Text.isPad_nil, Text.isPad_nil⟩ .none specified .none
  have written : Writes ⟨name, none, "==" ++ version, none⟩ (pin name version).toList := by
    rw [shape]
    refine .mk Text.isPad_nil named rest .none (fun before b after whole => ?_) fun c inside => ?_
    · have marked : '#' ∈ (pin name version).toList := by
        rw [shape, List.append_nil, whole]
        simp
      exact absurd rfl (made marked).ne.2.1
    · rw [← shape] at inside
      rw [Bool.eq_false_iff]
      intro lineEnd
      simpa [(made inside).visible] using Text.isBlank_of_isLineEnd lineEnd
  exact ofTrimmed_of_writes written

/-- What stands at the start of a text that asks for no package by name: nothing, a hyphen, or the scheme of an
address. -/
inductive IsNameless : List Char → Prop
  | empty : IsNameless []
  | option {cs : List Char} : IsNameless ('-' :: cs)
  | address {scheme rest : List Char} (filled : scheme ≠ []) (letters : ∀ c ∈ scheme, c.isAlpha = true ∨ c = '+') :
      IsNameless (scheme ++ ':' :: '/' :: '/' :: rest)

theorem ofTrimmed_of_isNameless (h : IsNameless cs) : ofTrimmed cs = none := by
  cases h with
  | empty => rfl
  | option => simp [ofTrimmed]
  | @address scheme rest filled letters =>
    have all : ∀ c ∈ scheme, (c.isAlpha || c == '+') = true := by simpa using letters
    have address : isAddress (scheme ++ ':' :: '/' :: '/' :: rest) = true := by
      simp [isAddress, List.takeWhile_append_of_pos all, List.dropWhile_append_of_pos all, filled]
    simp [ofTrimmed, address]

/-- Reading gives back what a line was written for, and a line that has no name in front when its comment and
the blanks around it are gone asks for nothing. -/
theorem parse_reads_back :
    (∀ (r : Requirement) (line : String), Writes r line.toList →
      parse? line = some r ∧ r.normalizedName = PackageName.normalize r.name) ∧
    ∀ (line : String) (text : List Char), Uncommented line.toList text → IsNameless (Text.trim text) →
      parse? line = none := by
  constructor
  · intro r line written
    exact ⟨ofTrimmed_of_writes written, rfl⟩
  · intro line text left nameless
    rw [parse?, stripComment_eq_iff.2 left, ofTrimmed_of_isNameless nameless]

end

section Sample

def sample : Requirement := ⟨"Flash_Attn", some "[triton]", ">=2.0,<3", some "python_version >= \"3.10\""⟩

def sampleLine : String := "\t Flash_Attn [triton] >= 2.0, < 3 ; python_version >= \"3.10\"  # gpu; x"

-- The line without the blanks at its start and the comment.
def sampleRest : List Char :=
  [' '] ++ ('[' :: ("triton".toList ++ [']']) ++ ([' '] ++ (">= 2.0, < 3 ".toList ++ ';' :: " python_version >= \"3.10\" ".toList)))

theorem writesRest_sample : WritesRest sample sampleRest := by
  have pad : Text.IsPad [' '] := by simp [Text.IsPad, Text.isBlank]
  have bracketed := @WritesExtras.some "triton".toList (by decide +kernel)
  have extras : some (String.ofList ('[' :: ("triton".toList ++ [']']))) = sample.extras := by decide +kernel
  have specified : WritesSpecifier sample.specifier ">= 2.0, < 3 ".toList :=
    ⟨by
      have start : ">= 2.0, < 3 ".toList.head? = some '>' := by decide +kernel
      rw [start]
      rintro c ⟨⟩
      decide, by decide +kernel, by decide +kernel⟩
  have marked := @WritesMarker.some " python_version >= \"3.10\" ".toList ⟨'p', by decide +kernel, by decide⟩
  have marker : some (String.ofList (Text.trim " python_version >= \"3.10\" ".toList)) = sample.marker := by decide +kernel
  rw [extras] at bracketed
  rw [marker] at marked
  exact WritesRest.mk ⟨pad, pad⟩ bracketed specified marked

theorem writes_sample : Writes sample sampleLine.toList := by
  have pad : Text.IsPad ['\t', ' '] := by simp [Text.IsPad, Text.isBlank]
  have noted : WritesComment " # gpu; x".toList := by
    have text : " # gpu; x".toList = ' ' :: '#' :: " gpu; x".toList := by decide +kernel
    rw [text]
    exact .some (by decide)
  have whole : sampleLine.toList = ['\t', ' '] ++ (sample.name.toList ++ sampleRest) ++ " # gpu; x".toList := by
    decide +kernel
  have unbroken : ∀ c ∈ sampleLine.toList, Text.isLineEnd c = false := List.all_iff_forall_prop.1 (by decide +kernel)
  rw [whole] at unbroken ⊢
  refine .mk pad (by decide +kernel) writesRest_sample noted ?_ unbroken
  intro before b after split
  have unmarked : '#' ∉ ['\t', ' '] ++ (sample.name.toList ++ sampleRest) := by decide +kernel
  exact absurd (by simp [split]) unmarked

theorem parse_reads_back_sample : parse? sampleLine = some sample ∧ parse? " file:///wheels/a.whl # local" = none := by
  obtain ⟨reads, nameless⟩ := parse_reads_back
  refine ⟨(reads sample sampleLine writes_sample).1, ?_⟩
  have left : Uncommented " file:///wheels/a.whl # local".toList " file:///wheels/a.whl".toList :=
    stripComment_eq_iff.1 (by decide +kernel)
  have text : Text.trim " file:///wheels/a.whl".toList = ['f', 'i', 'l', 'e'] ++ ':' :: '/' :: '/' :: "/wheels/a.whl".toList := by
    decide +kernel
  exact nameless _ _ left (text ▸ .address (by decide) (List.all_iff_forall_prop.1 (by decide)))

end Sample

end Requirement

end Wheelhouse
