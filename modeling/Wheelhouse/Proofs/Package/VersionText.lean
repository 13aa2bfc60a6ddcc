import Wheelhouse.Proofs.Package.VersionSpelling

/-!
The texts of the grammar of versions. A `Version.Spelling` is such a text part by part, with numbers of any
size, and with words that have no number after them. What follows the release can be read in more than one
way, `1a-1` say, but it is always read to its end, so that the epoch and the release of a text are the ones
that it spells.
-/

set_option autoImplicit false

namespace Wheelhouse

/-- A number as it is written: after some zeros. -/
structure Figures where
  zeros : ℕ
  value : ℕ
  deriving DecidableEq

namespace Figures

def text (n : Figures) : List Char := List.replicate n.zeros '0' ++ Nat.toDigits 10 n.value

theorem isDigit_of_mem {n : Figures} {c : Char} (inside : c ∈ n.text) : c.isDigit = true := by
  rcases List.mem_append.1 inside with zero | digit
  · rw [List.eq_of_mem_replicate zero]
    decide
  · exact Nat.isDigit_of_mem_toDigits (by decide) (by decide) digit

theorem text_ne_nil (n : Figures) : n.text ≠ [] := by
  simp [text, Nat.toDigits_ne_nil]

theorem natOfDigits_text (n : Figures) : Number.natOfDigits n.text = n.value :=
  Numeral.natOfDigits_zeros n.zeros n.value

theorem spells {n : Figures} (bound : n.value < 2 ^ 53) : (Numeral.finite n.value).Spells n.text :=
  ⟨n.value, n.zeros, bound, rfl, rfl⟩

end Figures

namespace Version

/-! ### What may follow a release -/

inductive IsPost : List Char → Prop
  | worded {cs : List Char} : IsPart (postWords.map Prod.fst) cs → IsPost cs
  | implied {number : List Char} (filled : number ≠ []) (digits : ∀ c ∈ number, c.isDigit = true) :
      IsPost ('-' :: number)

inductive IsDevTail : List Char → Prop
  | missing : IsDevTail []
  | present {cs : List Char} : IsPart (devWords.map Prod.fst) cs → IsDevTail cs

inductive IsPostTail : List Char → Prop
  | missing {cs : List Char} : IsDevTail cs → IsPostTail cs
  | present {post cs : List Char} : IsPost post → IsDevTail cs → IsPostTail (post ++ cs)

/-- What may follow a release: a pre-release, a post-release and a development release, each or not. -/
inductive IsTail : List Char → Prop
  | missing {cs : List Char} : IsPostTail cs → IsTail cs
  | present {pre cs : List Char} : IsPart (phaseWords.map Prod.fst) pre → IsPostTail cs → IsTail (pre ++ cs)

/-! ### Reading a part -/

/-- The letters with which a longer word goes on where a shorter one could end. -/
def continuing : List Char := ['c', 'e', 'l', 'v']

-- Whether a text can follow a word without making it a longer one.
def Unextended (cs : List Char) : Prop := Avoids (fun c => continuing.contains c.toLower) cs

-- What stands after a part does not go on with its number and not with its word.
structure Follows (cs : List Char) : Prop where
  ends : EndsRelease cs
  unextended : Unextended cs

theorem follows_nil : Follows [] := ⟨endsRelease_nil, avoids_nil _⟩

-- Whether no word of a table goes on after some words but with one of these letters.
def IsClosed {α : Type} (table : List (List Char × α)) (words : List (List Char)) : Prop :=
  ∀ word ∈ words, ∀ e ∈ table, word <+: e.1 → (e.1.drop word.length).head?.all continuing.contains = true

section

variable {α : Type} {table : List (List Char × α)} {words : List (List Char)} {cs rest : List Char}

theorem IsClosed.completes (closed : IsClosed table words) {word : List Char}
    (named : word.map Char.toLower ∈ words) (ended : Unextended rest) : Completes table word rest := by
  rintro e inside c first ⟨more, whole⟩
  have all := closed _ named e inside ⟨c.toLower :: more, by simpa using whole⟩
  have letter := (Option.all_eq_true _ _).1 all c.toLower (by simp [← whole])
  exact absurd letter (Bool.eq_false_iff.1 (ended c first))

theorem readDigits_snd (cs : List Char) : (readDigits cs).2 = (Number.spanDigits cs).2 := by
  unfold readDigits
  split <;> rename_i run <;> rw [run]

theorem readDigits_append_snd {number : List Char} (digits : ∀ c ∈ number, c.isDigit = true)
    (ended : Avoids Char.isDigit rest) : (readDigits (number ++ rest)).2 = rest := by
  rw [readDigits_snd, spanDigits_append digits ended]

-- What is left when a separator and a number have been looked for.
def afterNumber (cs : List Char) : List Char := (readDigits (dropSeparator cs)).2

-- A separator that no number follows may be taken from the part that comes next.
theorem afterNumber_append {after number : List Char} (second : after ∈ separators)
    (digits : ∀ c ∈ number, c.isDigit = true) (ended : Avoids Char.isDigit rest) :
    afterNumber (after ++ (number ++ rest)) = rest ∨ afterNumber (after ++ (number ++ rest)) = afterNumber rest := by
  unfold afterNumber
  simp only [separators, List.mem_cons, List.not_mem_nil, or_false] at second
  rcases second with rfl | second
  · cases number with
    | nil => exact .inr rfl
    | cons d number =>
      have start : dropSeparator ([] ++ (d :: number ++ rest)) = d :: number ++ rest :=
        dropSeparator_append (by decide)
          (by simpa using isSeparator_eq_false (by simp [Char.isAlphanum, digits d List.mem_cons_self]))
      exact .inl (by rw [start, readDigits_append_snd digits ended])
  · left
    rcases second with rfl | rfl | rfl <;> exact readDigits_append_snd digits ended

-- No sign and no digit makes a word longer.
theorem continuing_eq_false {c : Char} (other : c.isAlpha = false) : continuing.contains c.toLower = false := by
  rw [← Bool.not_eq_true, List.contains_iff_mem]
  intro inside
  have lower : continuing.all Char.isLower = true := by decide
  rw [isAlpha_of_isLower_toLower (List.all_eq_true.1 lower _ inside)] at other
  cases other

theorem unextended_append {after number : List Char} (second : after ∈ separators)
    (digits : ∀ c ∈ number, c.isDigit = true) (ended : Unextended rest) : Unextended (after ++ (number ++ rest)) := by
  refine avoids_append_of_mem_separators second (by decide) ?_
  cases number with
  | nil => exact ended
  | cons d number =>
    rw [List.cons_append, avoids_cons]
    exact continuing_eq_false (isAlpha_eq_false_of_isDigit (digits d List.mem_cons_self))

namespace IsPart

theorem exists_readPart (h : IsPart (table.map Prod.fst) cs) (areWords : AreWords (table.map Prod.fst))
    (isTable : IsTable table) (closed : IsClosed table (table.map Prod.fst)) (follows : Follows rest) :
    ∃ part left, readPart table (cs ++ rest) = some (part, left) ∧ (left = rest ∨ left = afterNumber rest) := by
  cases h with
  | @mk before word after number first spelled second digits =>
    have start : Avoids isSeparator (word ++ (after ++ (number ++ rest))) :=
      areWords.avoids spelled (fun _ letter => isSeparator_eq_false (by simp [Char.isAlphanum, letter])) _
    have completes : Completes table word (after ++ (number ++ rest)) :=
      closed.completes spelled (unextended_append second digits follows.unextended)
    obtain ⟨⟨_, meaning⟩, inside, rfl⟩ := List.mem_map.1 spelled
    simp only [List.append_assoc]
    exact ⟨_, _, readPart_word isTable first start inside completes,
      Version.afterNumber_append second digits follows.ends.ended⟩

theorem readPart_eq_none (h : IsPart words cs) (areWords : AreWords words) (closed : IsClosed table words)
    (other : ∀ w ∈ words, ∀ e ∈ table, ¬e.1 <+: w) (unextended : Unextended rest) :
    readPart table (cs ++ rest) = none := by
  cases h with
  | @mk before word after number first spelled second digits =>
    have start : Avoids isSeparator (word ++ (after ++ (number ++ rest))) :=
      areWords.avoids spelled (fun _ letter => isSeparator_eq_false (by simp [Char.isAlphanum, letter])) _
    simp only [List.append_assoc]
    exact readPart_other_word first start (other _ spelled)
      (closed.completes spelled (unextended_append second digits unextended))

-- Without the separator at its start a part is still one.
theorem afterNumber_append (h : IsPart words cs) (areWords : AreWords words) (rest : List Char) :
    ∃ cs', IsPart words cs' ∧ afterNumber (cs ++ rest) = cs' ++ rest := by
  cases h with
  | @mk before word after number first spelled second digits =>
    have start : Avoids isSeparator (word ++ (after ++ (number ++ rest))) :=
      areWords.avoids spelled (fun _ letter => isSeparator_eq_false (by simp [Char.isAlphanum, letter])) _
    have unnumbered : Avoids Char.isDigit (word ++ (after ++ (number ++ rest))) :=
      areWords.avoids spelled (fun _ => isDigit_eq_false_of_isAlpha) _
    refine ⟨_, IsPart.mk (by decide : [] ∈ separators) spelled second digits, ?_⟩
    simp only [List.append_assoc, afterNumber]
    rw [dropSeparator_append first start, readDigits_eq_none unnumbered, List.nil_append]

end IsPart

end

/-! ### Reading all that follows a release -/

instance {α : Type} (table : List (List Char × α)) (words : List (List Char)) : Decidable (IsClosed table words) :=
  inferInstanceAs (Decidable (∀ word ∈ words, ∀ e ∈ table, word <+: e.1 →
    (e.1.drop word.length).head?.all continuing.contains = true))

section

variable {words : List (List Char)} {cs rest : List Char}

theorem readOptional_nil {α : Type} {table : List (List Char × α)} (isTable : IsTable table)
    (filled : ∀ e ∈ table, e.1 ≠ []) : readOptional table [] = (none, []) := by
  rw [readOptional, readPart_nil isTable filled]

theorem IsPart.follows (h : IsPart words cs) (areWords : AreWords words)
    (starts : ∀ w ∈ words, w.head?.any continuing.contains = false) (rest : List Char) : Follows (cs ++ rest) := by
  refine ⟨h.ends areWords rest, h.avoids areWords (by decide) (fun c _ start => ?_) rest⟩
  obtain ⟨w, inside, first⟩ := start
  simpa [first] using starts w inside

namespace IsDevTail

theorem follows (h : IsDevTail cs) : Follows cs := by
  cases h with
  | missing => exact follows_nil
  | present part =>
    have whole := part.follows (by decide) (by decide) []
    rwa [List.append_nil] at whole

theorem afterNumber (h : IsDevTail cs) : IsDevTail (afterNumber cs) := by
  cases h with
  | missing => exact .missing
  | present part =>
    obtain ⟨cs', part', same⟩ := part.afterNumber_append (by decide) []
    rw [List.append_nil, List.append_nil] at same
    rw [same]
    exact .present part'

theorem readOptional_snd (h : IsDevTail cs) : (readOptional devWords cs).2 = [] := by
  cases h with
  | missing => rw [readOptional_nil devWords_isTable (by decide)]
  | present part =>
    obtain ⟨found, left, read, rest⟩ := part.exists_readPart (by decide) devWords_isTable (by decide) follows_nil
    rw [List.append_nil] at read
    rw [readOptional, read]
    exact rest.elim id id

theorem readPart_eq_none {α : Type} {table : List (List Char × α)} (h : IsDevTail cs) (isTable : IsTable table)
    (filled : ∀ e ∈ table, e.1 ≠ []) (closed : IsClosed table (devWords.map Prod.fst))
    (other : ∀ w ∈ devWords.map Prod.fst, ∀ e ∈ table, ¬e.1 <+: w) : readPart table cs = none := by
  cases h with
  | missing => exact readPart_nil isTable filled
  | present part =>
    have unread := part.readPart_eq_none (by decide) closed other follows_nil.unextended
    rwa [List.append_nil] at unread

end IsDevTail

namespace IsPostTail

theorem follows (h : IsPostTail cs) : Follows cs := by
  cases h with
  | missing dev => exact dev.follows
  | present post dev =>
    cases post with
    | worded part => exact part.follows (by decide) (by decide) _
    | implied filled digits => exact ⟨⟨by simp, by simp⟩, by simp [Unextended]; decide⟩

theorem afterNumber (h : IsPostTail cs) : IsPostTail (afterNumber cs) := by
  cases h with
  | missing dev => exact .missing dev.afterNumber
  | @present _ rest post dev =>
    cases post with
    | worded part =>
      obtain ⟨cs', part', same⟩ := part.afterNumber_append (by decide) rest
      rw [same]
      exact .present (.worded part') dev
    | implied filled digits =>
      -- The digits count as the number that was looked for.
      have left : Version.afterNumber ('-' :: _ ++ rest) = rest := readDigits_append_snd digits dev.follows.ends.ended
      rw [left]
      exact .missing dev

theorem readPost_snd (h : IsPostTail cs) : IsDevTail (readPost cs).2 := by
  cases h with
  | missing dev =>
    have pointed : ∀ rest, cs = '-' :: rest → Avoids Char.isDigit rest := by
      cases dev with
      | missing => simp
      | present part => exact fun rest split => part.separated (by decide) ((List.append_nil _).trans split) (by decide)
    have none : readPart postWords cs = none :=
      dev.readPart_eq_none postWords_isTable (by decide) (by decide) (by decide)
    rw [readPost_eq_readOptional pointed, readOptional, none]
    exact dev
  | @present _ rest post dev =>
    cases post with
    | worded part =>
      obtain ⟨found, left, read, ends⟩ := part.exists_readPart (by decide) postWords_isTable (by decide) dev.follows
      rw [readPost_eq_readOptional fun left split => part.separated (by decide) split (by decide), readOptional, read]
      rcases ends with rfl | rfl
      · exact dev
      · exact dev.afterNumber
    | @implied number filled digits =>
      have run := spanDigits_append digits dev.follows.ends.ended
      obtain ⟨d, ds, rfl⟩ := List.exists_cons_of_ne_nil filled
      simp only [readPost, List.cons_append, readDigits] at run ⊢
      rw [run]
      exact dev

theorem readPart_eq_none (h : IsPostTail cs) : readPart phaseWords cs = none := by
  cases h with
  | missing dev => exact dev.readPart_eq_none phaseWords_isTable (by decide) (by decide) (by decide)
  | @present _ rest post dev =>
    cases post with
    | worded part =>
      exact part.readPart_eq_none (by decide) (by decide) (by decide) dev.follows.unextended
    | @implied number filled digits =>
      obtain ⟨d, ds, rfl⟩ := List.exists_cons_of_ne_nil filled
      have digit := digits d List.mem_cons_self
      have unlettered : Avoids Char.isAlpha (d :: ds ++ rest) := by
        simpa using isAlpha_eq_false_of_isDigit digit
      have unseparated : Avoids isSeparator (d :: ds ++ rest) := by
        simpa using isSeparator_eq_false (by simp [Char.isAlphanum, digit])
      have none : readPart phaseWords (['-'] ++ ([] ++ (d :: ds ++ rest))) = none :=
        readPart_other_word (by decide) unseparated (by decide) (phaseWords_isTable.completes [] unlettered)
      exact none

end IsPostTail

namespace IsTail

theorem ends (h : IsTail cs) : EndsRelease cs := by
  cases h with
  | missing post => exact post.follows.ends
  | present part post => exact part.ends (by decide) _

theorem readOptional_snd (h : IsTail cs) : IsPostTail (readOptional phaseWords cs).2 := by
  cases h with
  | missing post =>
    rw [readOptional, post.readPart_eq_none]
    exact post
  | present part post =>
    obtain ⟨found, left, read, ends⟩ := part.exists_readPart (by decide) phaseWords_isTable (by decide) post.follows
    rw [readOptional, read]
    rcases ends with rfl | rfl
    · exact post
    · exact post.afterNumber

end IsTail

end

theorem IsDevTail.letters {cs : List Char} (h : IsDevTail cs) : ∀ c ∈ cs, Condition.isTargetChar c = true := by
  cases h with
  | missing => simp
  | present part => exact part.letters (by decide)

theorem IsPostTail.letters {cs : List Char} (h : IsPostTail cs) : ∀ c ∈ cs, Condition.isTargetChar c = true := by
  cases h with
  | missing dev => exact dev.letters
  | present post dev =>
    refine List.forall_mem_append.2 ⟨?_, dev.letters⟩
    cases post with
    | worded part => exact part.letters (by decide)
    | implied filled digits =>
      exact List.forall_mem_cons.2 ⟨by decide, fun c inside => isTargetChar_of_isDigit (digits c inside)⟩

theorem IsTail.letters {cs : List Char} (h : IsTail cs) : ∀ c ∈ cs, Condition.isTargetChar c = true := by
  cases h with
  | missing post => exact post.letters
  | present part post => exact List.forall_mem_append.2 ⟨part.letters (by decide), post.letters⟩

/-! ### Whole texts -/

/-- The text of a version up to its local label, part by part. -/
structure Spelling where
  mark : List Char
  epoch : Option Figures
  release : List Figures
  tail : List Char
  marked : mark ∈ [[], ['v'], ['V']]
  filled : release ≠ []
  isTail : IsTail tail

namespace Spelling

variable (s : Spelling)

def epochText : List Char := s.epoch.elim [] fun n => n.text ++ ['!']

def releaseText : List Char := Text.join ['.'] (s.release.map Figures.text)

def chars : List Char := s.mark ++ (s.epochText ++ (s.releaseText ++ s.tail))

/-- The text of the version with a local label or without one. -/
def text (label : Option (List Char)) : String := String.ofList (s.chars ++ label.elim [] fun label => '+' :: label)

def epochNumber : ℕ := s.epoch.elim 0 Figures.value

def numbers : List ℕ := s.release.map Figures.value

-- Whether the numbers of the epoch and the release are exact.
structure IsExact : Prop where
  epoch : s.epochNumber < 2 ^ 53
  numbers : ∀ n ∈ s.numbers, n < 2 ^ 53

variable {s}

theorem spellsRelease_join {release : List Figures} (filled : release ≠ [])
    (bound : ∀ n ∈ release, n.value < 2 ^ 53) :
    SpellsRelease (release.map fun n => .finite n.value) (Text.join ['.'] (release.map Figures.text)) := by
  induction release with
  | nil => exact absurd rfl filled
  | cons n release ih =>
    obtain ⟨first, later⟩ := List.forall_mem_cons.1 bound
    cases release with
    | nil => exact .last (Figures.spells first)
    | cons m release =>
      have rest := ih (by simp) later
      simp only [List.map_cons, Text.join_cons_cons, List.append_assoc, List.singleton_append] at rest ⊢
      exact .more (Figures.spells first) rest

theorem spellsRelease (exact : s.IsExact) : SpellsRelease (s.numbers.map .finite) s.releaseText := by
  have bound : ∀ n ∈ s.release, n.value < 2 ^ 53 := fun n inside => exact.numbers _ (List.mem_map_of_mem inside)
  rw [numbers, List.map_map]
  exact spellsRelease_join s.filled bound

theorem spellsEpoch (exact : s.IsExact) : SpellsEpoch (.finite s.epochNumber) s.epochText := by
  have bound := exact.epoch
  unfold epochNumber at bound
  unfold epochNumber epochText
  cases h : s.epoch with
  | none => exact .omitted
  | some n =>
    rw [h] at bound
    exact .written (Figures.spells bound)

theorem exists_parsePublic? (exact : s.IsExact) : ∃ v, parsePublic? s.chars = some v ∧
    v.epoch = .finite s.epochNumber ∧ v.release = s.numbers.map .finite := by
  have epoched := spellsEpoch exact
  have released := spellsRelease exact
  have dev : (readOptional devWords (readPost (readOptional phaseWords s.tail).2).2).2 = [] :=
    s.isTail.readOptional_snd.readPost_snd.readOptional_snd
  simp [parsePublic?, chars, dropV_append s.marked (avoids_isAlpha_of_epoch epoched released s.tail),
    readEpoch_eq epoched released s.isTail.ends, readRelease_eq released s.isTail.ends, dev]

theorem letters_join (release : List Figures) :
    ∀ c ∈ Text.join ['.'] (release.map Figures.text), Condition.isTargetChar c = true := by
  have number (n : Figures) : ∀ c ∈ n.text, Condition.isTargetChar c = true :=
    fun c inside => isTargetChar_of_isDigit (n.isDigit_of_mem inside)
  induction release with
  | nil => simp [Text.join]
  | cons n release ih =>
    cases release with
    | nil => exact number n
    | cons m release =>
      simp only [List.map_cons, Text.join_cons_cons, List.forall_mem_append] at ih ⊢
      exact ⟨⟨number n, List.forall_mem_singleton.2 (by decide)⟩, ih⟩

theorem letters (s : Spelling) : ∀ c ∈ s.chars, Condition.isTargetChar c = true := by
  have epoch : ∀ c ∈ s.epochText, Condition.isTargetChar c = true := by
    unfold epochText
    cases s.epoch with
    | none => simp
    | some n =>
      exact List.forall_mem_append.2 ⟨fun c inside => isTargetChar_of_isDigit (n.isDigit_of_mem inside),
        List.forall_mem_singleton.2 (by decide)⟩
  simp only [chars, List.forall_mem_append]
  exact ⟨letters_of_mark s.marked, epoch, letters_join s.release, s.isTail.letters⟩

theorem cut_text (s : Spelling) (label : Option (List Char)) : (Text.cut '+' (s.text label).toList).1 = s.chars := by
  have unlabelled : '+' ∉ s.chars := fun inside => absurd (s.letters '+' inside) (by decide)
  cases label with
  | none => simp [text, Text.cut_of_not_mem unlabelled]
  | some after => simp [text, Text.cut_append unlabelled]

/-- The text of a version is one to compare with. -/
theorem isBound (s : Spelling) : Condition.IsBound (s.text none) := by
  refine ⟨fun empty => ?_, by simpa [text] using s.letters⟩
  have none : s.releaseText = [] := by
    have chars : s.chars = [] := by simpa [text] using congrArg String.toList empty
    simp only [Spelling.chars, List.append_eq_nil_iff] at chars
    exact chars.2.2.1
  obtain ⟨n, others, release⟩ := List.exists_cons_of_ne_nil s.filled
  cases others with
  | nil => exact n.text_ne_nil (by simpa [releaseText, release, Text.join] using none)
  | cons m others => simp [releaseText, release, Text.join_cons_cons] at none

/-- A text is read as the epoch and the release that it spells, whatever follows them. -/
theorem parse_text (exact : s.IsExact) (label : Option (List Char)) :
    (parse (s.text label)).epoch = .finite s.epochNumber ∧
      (parse (s.text label)).release = s.numbers.map .finite := by
  obtain ⟨v, read, epoch, release⟩ := exists_parsePublic? exact
  have whole : (s.text label).toList = s.chars ∨ ∃ after, (s.text label).toList = s.chars ++ '+' :: after := by
    cases label with
    | none => exact .inl (by simp [text])
    | some after => exact .inr ⟨after, by simp [text]⟩
  rw [parse_of_letters s.letters whole, read]
  exact ⟨epoch, release⟩

end Spelling

end Version

end Wheelhouse
