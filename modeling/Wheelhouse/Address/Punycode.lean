import Wheelhouse.Number.Decimal
import Wheelhouse.Text.Fields

/-!
A way to write any label of a domain name with letters and digits. The plain characters of a label come
first. The others follow in ascending order, each as a number that tells how many steps lie between it and
the one before, where a step goes to the next place in the label and past its end to the next character.
Numbers have digits of a changing base, whose thresholds adapt to the size of the last number.
-/

set_option autoImplicit false

namespace Wheelhouse.Punycode

def isBasic (c : Char) : Bool := c.toNat < 0x80

def firstCode : Nat := 0x80
def base : Nat := 36
def firstBias : Nat := 72

/-- A digit below this threshold is the last one of its number. -/
def threshold (weight bias : Nat) : Nat :=
  if weight ≤ bias then 1 else if bias + 26 ≤ weight then 26 else weight - bias

theorem threshold_pos (weight bias : Nat) : 1 ≤ threshold weight bias := by
  unfold threshold
  split
  · omega
  · split <;> omega

/-- Halves of large numbers count for a larger bias. -/
def scale (delta bias : Nat) : Nat :=
  if 455 < delta then scale (delta / 35) (bias + base) else bias + base * delta / (delta + 38)
termination_by delta
decreasing_by omega

def adapt (delta count : Nat) (first : Bool) : Nat :=
  let delta := if first then delta / 700 else delta / 2
  scale (delta + delta / count) 0

def digit (n : Nat) : Char := Char.ofNat (if n < 26 then 97 + n else 22 + n)

def digitValue? (c : Char) : Option Nat :=
  if 'a' ≤ c && c ≤ 'z' then some (c.toNat - 97)
  else if c.isDigit then some (c.toNat - 22)
  else none

/-! ### Writing -/

def writeNumber (bias weight n : Nat) : List Char :=
  let t := threshold weight bias
  if n < t then [digit n]
  else digit (t + (n - t) % (base - t)) :: writeNumber bias (weight + base) ((n - t) / (base - t))
termination_by n
decreasing_by
  have h := threshold_pos weight bias
  exact Nat.lt_of_le_of_lt (Nat.div_le_self _ _) (by omega)

/-- A label that is being written: the number of the next character, the bias, and how many characters
there are. -/
structure Writer where
  out : List Char
  delta : Nat
  bias : Nat
  count : Nat

def Writer.pass (code basics : Nat) (w : Writer) (c : Char) : Writer :=
  if c.toNat < code then { w with delta := w.delta + 1 }
  else if c.toNat = code then
    { out := w.out ++ writeNumber w.bias base w.delta
      delta := 0
      bias := adapt w.delta (w.count + 1) (w.count = basics)
      count := w.count + 1 }
  else w

/-- Writes the characters of the given codes; `next` is the first code that may follow. -/
def writeCodes (label : List Char) (basics : Nat) : List Nat → Nat → Writer → Writer
  | [], _, w => w
  | code :: codes, next, w =>
    let start := { w with delta := w.delta + (code - next) * (w.count + 1) }
    let after := label.foldl (Writer.pass code basics) start
    writeCodes label basics codes (code + 1) { after with delta := after.delta + 1 }

def encode (label : List Char) : List Char :=
  let basic := label.filter isBasic
  let codes := ((label.filter fun c => !isBasic c).map Char.toNat).mergeSort.eraseDups
  let start := if basic.isEmpty then [] else basic ++ ['-']
  (writeCodes label basic.length codes firstCode ⟨start, 0, firstBias, basic.length⟩).out

/-! ### Reading -/

def greatest : Nat := 0x7FFFFFFF

def readNumber? (bias weight factor n : Nat) : List Char → Option (Nat × List Char)
  | [] => none
  | c :: cs => do
    let d ← digitValue? c
    let sum := n + d * factor
    if greatest < sum then none
    else if d < threshold weight bias then some (sum, cs)
    else
      let factor := factor * (base - threshold weight bias)
      if greatest < factor then none else readNumber? bias (weight + base) factor sum cs

theorem length_lt_of_readNumber? {bias weight factor n m : Nat} {cs rest : List Char}
    (h : readNumber? bias weight factor n cs = some (m, rest)) : rest.length < cs.length := by
  induction cs generalizing weight factor n with
  | nil => simp [readNumber?] at h
  | cons c cs ih =>
    simp only [readNumber?, Option.bind_eq_bind, Option.bind_eq_some_iff] at h
    obtain ⟨d, -, h⟩ := h
    split at h
    · simp at h
    · split at h
      · simp only [Option.some.injEq, Prod.mk.injEq] at h
        simp [← h.2]
      · split at h
        · simp at h
        · exact Nat.lt_succ_of_lt (ih h)

def isCode (n : Nat) : Bool := n < 0xD800 || (0xDFFF < n && n < 0x110000)

/-- Reads the characters after the plain ones: `steps` counts the steps from the first place and the first
code. -/
def readCodes? (label : List Char) (code place bias : Nat) (cs : List Char) : Option (List Char) :=
  if cs.isEmpty then some label
  else
    match _h : readNumber? bias base 1 place cs with
    | none => none
    | some (steps, rest) =>
      let count := label.length + 1
      let next := code + steps / count
      let here := steps % count
      if isCode next then
        readCodes? (label.take here ++ Char.ofNat next :: label.drop here) next (here + 1)
          (adapt (steps - place) count (place = 0)) rest
      else none
termination_by cs.length
decreasing_by exact length_lt_of_readNumber? _h

def decode? (cs : List Char) : Option (List Char) :=
  match Text.cutLast '-' cs with
  | some (basic, rest) => if basic.all isBasic then readCodes? basic firstCode 0 firstBias rest else none
  | none => readCodes? [] firstCode 0 firstBias cs

end Wheelhouse.Punycode
