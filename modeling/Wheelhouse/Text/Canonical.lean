import Wheelhouse.Text.CanonicalTable

/-!
The composed normal form of a text. Texts that differ only in whether an accented character is written as
one or with a mark of its own, or in the order of marks that do not touch, have the same normal form:
`canonical` takes every character apart, puts the marks into order, and puts together what has a name of
its own.
-/

set_option autoImplicit false

namespace Wheelhouse.Text

def combiningClass (c : Char) : Nat := combiningClasses.value c.toNat

/-! ### Korean syllables -/

/-- A Korean syllable is numbered by its first consonant, its vowel and its last consonant, which may be
missing. -/
structure Syllable where
  first : Nat
  vowel : Nat
  last : Nat

namespace Syllable

def firstCount : Nat := 19
def vowelCount : Nat := 21
def lastCount : Nat := 28

/-- The characters from which syllables, first consonants, vowels and last consonants are numbered. The
number zero stands for a last consonant that is missing. -/
def base : Nat := 0xAC00
def firstBase : Nat := 0x1100
def vowelBase : Nat := 0x1161
def lastBase : Nat := 0x11A7

def toNat (s : Syllable) : Nat := base + (s.first * vowelCount + s.vowel) * lastCount + s.last

def ofNat? (n : Nat) : Option Syllable :=
  let place := n - base
  if base ≤ n && place < firstCount * vowelCount * lastCount then
    some ⟨place / (vowelCount * lastCount), place / lastCount % vowelCount, place % lastCount⟩
  else none

def letters (s : Syllable) : List Nat :=
  [firstBase + s.first, vowelBase + s.vowel] ++ if s.last = 0 then [] else [lastBase + s.last]

/-- The syllable that a first consonant and a vowel make, or a syllable and a last consonant. -/
def meet? (a b : Nat) : Option Syllable :=
  if firstBase ≤ a && a < firstBase + firstCount && vowelBase ≤ b && b < vowelBase + vowelCount then
    some ⟨a - firstBase, b - vowelBase, 0⟩
  else
    match ofNat? a with
    | some s =>
      if s.last = 0 && lastBase < b && b < lastBase + lastCount then
        some { s with last := b - lastBase }
      else none
    | none => none

end Syllable

/-! ### Taking apart and putting together -/

/-- No character has to be taken apart more often. -/
def depth : Nat := 4

def takeApart : Nat → Nat → List Nat
  | 0, n => [n]
  | more + 1, n =>
    match Syllable.ofNat? n with
    | some s => s.letters
    | none =>
      match canonicalParts.image? n with
      | some parts => parts.flatMap (takeApart more)
      | none => [n]

def decompose (cs : List Char) : List Char :=
  cs.flatMap fun c => if c.toNat < 0x80 then [c] else (takeApart depth c.toNat).map Char.ofNat

/-- Puts a character before a text whose marks are in order. A mark passes those of lower classes. -/
def place (c : Char) : List Char → List Char
  | [] => [c]
  | d :: cs =>
    if combiningClass d ≠ 0 && combiningClass d < combiningClass c then d :: place c cs
    else c :: d :: cs

def ordered (cs : List Char) : List Char := cs.foldr place []

def meet? (a b : Char) : Option Char :=
  match Syllable.meet? a.toNat b.toNat with
  | some s => some (Char.ofNat s.toNat)
  | none =>
    -- Only what two characters make has two values.
    match canonicalParts.find? fun r => r.values == [a.toNat, b.toNat] && !uncomposed.contains r.first with
    | some r => some (Char.ofNat r.first)
    | none => none

/-- Puts a text together. `start` is the last character that can take marks, and `marks` those after it that
it could not take, the last one first. -/
def composeAfter (start : Char) (marks : List Char) : List Char → List Char
  | [] => start :: marks.reverse
  | c :: cs =>
    -- A mark of the same class in between keeps another from the character that both belong to.
    let reached := marks.all fun m => combiningClass m < combiningClass c
    match if reached then meet? start c else none with
    | some whole => composeAfter whole marks cs
    | none =>
      if combiningClass c = 0 then start :: marks.reverse ++ composeAfter c [] cs
      else composeAfter start (c :: marks) cs

/-- Marks at the start of a text have nothing to be put together with. -/
def compose : List Char → List Char
  | [] => []
  | c :: cs => if combiningClass c = 0 then composeAfter c [] cs else c :: compose cs

def canonical (cs : List Char) : List Char :=
  if cs.all (·.toNat < 0x80) then cs else compose (ordered (decompose cs))

end Wheelhouse.Text
