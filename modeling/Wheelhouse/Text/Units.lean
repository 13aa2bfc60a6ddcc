/-!
Texts as UTF-16 code units. A character beyond U+FFFF is written with surrogates, which lie between
U+D7FF and U+E000, so in the order of code units it comes before the characters from U+E000 on. The
order is total, transitive and antisymmetric, and `sorted` arranges texts by it.

Half a surrogate pair is no character. A text that has one keeps it as a character of its own, from U+10D800
to U+10DFFF in the part of Unicode that is left to private use. The price is that these 2048 characters are
read as halves wherever they stand, also where they were meant: the names on a disk do not pass through
`wellFormed`, and the order of code units puts such a name among the surrogates. On texts without them it is
the order of UTF-16.
-/

set_option autoImplicit false

namespace Wheelhouse.Text

/-- How far the characters that stand for half a pair lie from the surrogates. -/
def halfDistance : Nat := 0x100000

/-- The surrogate that a character stands for, if it does not stand for itself. There is no telling a half from
a private-use character between U+10D800 and U+10DFFF. -/
def half? (c : Char) : Option Nat :=
  if 0xD800 + halfDistance ≤ c.toNat && c.toNat < 0xE000 + halfDistance then
    some (c.toNat - halfDistance)
  else none

def wellFormed (s : String) : String :=
  if s.toList.any fun c => (half? c).isSome then
    s.map fun c => if (half? c).isSome then '\uFFFD' else c
  else s

def unitsOf (c : Char) : List Nat :=
  match half? c with
  | some u => [u]
  | none =>
    if c.toNat < 0x10000 then [c.toNat]
    else [0xD800 + (c.toNat - 0x10000) / 0x400, 0xDC00 + (c.toNat - 0x10000) % 0x400]

/-- The code units of a text, one for each character that stands for a half. -/
def codeUnits (cs : List Char) : List Nat := cs.flatMap unitsOf

def isHighSurrogate (u : Nat) : Bool := 0xD800 ≤ u && u < 0xDC00

def isLowSurrogate (u : Nat) : Bool := 0xDC00 ≤ u && u < 0xE000

def charOfUnit (u : Nat) : Char :=
  Char.ofNat (if isHighSurrogate u || isLowSurrogate u then u + halfDistance else u)

def charOfPair (high low : Nat) : Char :=
  Char.ofNat (0x10000 + (high - 0xD800) * 0x400 + (low - 0xDC00))

def ofCodeUnits : List Nat → List Char
  | [] => []
  | [u] => [charOfUnit u]
  | high :: low :: rest =>
    if isHighSurrogate high && isLowSurrogate low then charOfPair high low :: ofCodeUnits rest
    else charOfUnit high :: ofCodeUnits (low :: rest)

/-- Whether the first text comes before the second or is the same. Two halves that stand side by side have
the code units of one character; between such texts, which are never read, the characters decide. -/
def unitsLe (as bs : List Char) : Bool :=
  codeUnits as < codeUnits bs ||
    (codeUnits as == codeUnits bs && !decide (bs.map Char.toNat < as.map Char.toNat))

theorem unitsLe_iff {as bs : List Char} : unitsLe as bs = true ↔
    codeUnits as < codeUnits bs ∨ (codeUnits as = codeUnits bs ∧ ¬bs.map Char.toNat < as.map Char.toNat) := by
  simp [unitsLe]

@[simp] theorem unitsLe_refl (a : List Char) : unitsLe a a = true :=
  unitsLe_iff.2 (.inr ⟨rfl, List.lt_irrefl _⟩)

theorem unitsLe_trans {a b c : List Char} (hab : unitsLe a b = true) (hbc : unitsLe b c = true) :
    unitsLe a c = true := by
  rw [unitsLe_iff] at hab hbc ⊢
  rcases hab with hab | ⟨same, hab⟩
  · rcases hbc with hbc | ⟨same, _⟩
    · exact .inl (List.lt_trans hab hbc)
    · exact .inl (same ▸ hab)
  · rcases hbc with hbc | ⟨same', hbc⟩
    · exact .inl (same ▸ hbc)
    · exact .inr ⟨same.trans same', List.not_lt.2 (List.le_trans (List.not_lt.1 hab) (List.not_lt.1 hbc))⟩

theorem unitsLe_total (a b : List Char) : (unitsLe a b || unitsLe b a) = true := by
  rw [Bool.or_eq_true, unitsLe_iff, unitsLe_iff]
  by_cases before : codeUnits a < codeUnits b
  · exact .inl (.inl before)
  · by_cases after : codeUnits b < codeUnits a
    · exact .inr (.inl after)
    · have same : codeUnits a = codeUnits b := List.le_antisymm (List.not_lt.1 after) (List.not_lt.1 before)
      exact (List.le_total (a.map Char.toNat) (b.map Char.toNat)).imp (fun h => .inr ⟨same, List.not_lt.2 h⟩)
        fun h => .inr ⟨same.symm, List.not_lt.2 h⟩

theorem unitsLe_antisymm {a b : List Char} (hab : unitsLe a b = true) (hba : unitsLe b a = true) :
    a = b := by
  rw [unitsLe_iff] at hab hba
  rcases hab with hab | ⟨_, hab⟩
  · rcases hba with hba | ⟨same, _⟩
    · exact absurd hba (List.lt_asymm hab)
    · exact absurd hab (same ▸ List.lt_irrefl _)
  · rcases hba with hba | ⟨_, hba⟩
    · rename_i same
      exact absurd hba (same ▸ List.lt_irrefl _)
    · exact List.map_inj_right (fun _ _ => Char.toNat_inj.1) |>.1
        (List.le_antisymm (List.not_lt.1 hab) (List.not_lt.1 hba))

def precedes (a b : String) : Bool := unitsLe a.toList b.toList

def strictlyPrecedes (a b : String) : Bool := !precedes b a

def sorted (ss : List String) : List String := ss.mergeSort precedes

theorem sorted_perm (ss : List String) : (sorted ss).Perm ss := List.mergeSort_perm ss precedes

theorem mem_sorted {ss : List String} {s : String} : s ∈ sorted ss ↔ s ∈ ss :=
  (sorted_perm ss).mem_iff

theorem pairwise_sorted (ss : List String) :
    (sorted ss).Pairwise fun a b => precedes a b = true :=
  List.pairwise_mergeSort (fun a b c => unitsLe_trans (a := a.toList) (b := b.toList) (c := c.toList))
    (fun a b => unitsLe_total a.toList b.toList) ss

end Wheelhouse.Text
