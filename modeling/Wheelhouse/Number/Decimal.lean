import Wheelhouse.Number.Binary64
import Wheelhouse.Text.Blank

/-!
Numbers written in decimal digits. A `Decimal` is a run of digits and a power of ten; its value is
rounded once, from the exact number that is written. `readDecimal` reads the longest beginning of a
text that is a decimal, in the two grammars in use: that of data files, and the looser one of values
typed by people, which also has texts for infinity and for other bases.
-/

set_option autoImplicit false

namespace Wheelhouse

/-- The number `digits · 10 ^ exponent`. -/
structure Decimal where
  digits : Nat
  exponent : Int
  deriving DecidableEq

namespace Decimal

def exact (d : Decimal) : Rat := d.digits * (10 : Rat) ^ d.exponent

def digitCount (n : Nat) : Nat := (Nat.toDigits 10 n).length

/-- The nearest number. The magnitude is looked at first, so that no power of ten beyond the range is
ever worked out. -/
def toNumber (d : Decimal) : Number :=
  if d.digits = 0 then .finite 0
  else
    -- Beyond 400 digits on either side the answer is clear without the power of ten.
    let magnitude := digitCount d.digits + d.exponent
    if 400 < magnitude then .infinite false
    else if magnitude < -400 then .finite 0
    else Number.round d.exact

end Decimal

namespace Number

def negate : Number → Number
  | .finite q => .finite (-q)
  | .infinite negative => .infinite (!negative)
  | .undefined => .undefined

def digitValue? (c : Char) : Option Nat :=
  if c.isDigit then some (c.toNat - 48)
  else if 'a' ≤ c && c ≤ 'f' then some (c.toNat - 87)
  else if 'A' ≤ c && c ≤ 'F' then some (c.toNat - 55)
  else none

def natOfDigits (ds : List Char) : Nat :=
  ds.foldl (fun n c => n * 10 + (c.toNat - 48)) 0

def spanDigits (cs : List Char) : List Char × List Char :=
  cs.span Char.isDigit

/-- The power of ten at the start of a text: `e`, perhaps a sign, and digits. Without a complete one
nothing is read. -/
def readExponent (cs : List Char) : Int × List Char :=
  match cs with
  | e :: rest =>
    if e == 'e' || e == 'E' then
      let (negative, rest') :=
        match rest with
        | '+' :: r => (false, r)
        | '-' :: r => (true, r)
        | r => (false, r)
      match spanDigits rest' with
      | ([], _) => (0, cs)
      | (ds, after) => (if negative then -(natOfDigits ds : Int) else natOfDigits ds, after)
    else (0, cs)
  | [] => (0, cs)

def readFraction (cs : List Char) : Option (List Char × List Char) :=
  match cs with
  | '.' :: rest => some (spanDigits rest)
  | _ => none

/-- A decimal at the start of a text. With `strict` the whole part is `0` or starts with another
digit, and a point has digits after it; otherwise digits on one side of the point are enough. -/
def readDecimal (strict : Bool) (cs : List Char) : Option (Decimal × List Char) :=
  let (whole, rest) := spanDigits cs
  let (fraction, rest') :=
    match readFraction rest with
    | some (ds, after) => if ds.isEmpty && (strict || whole.isEmpty) then ([], rest) else (ds, after)
    | none => ([], rest)
  let wholeIsGood :=
    match whole with
    | [] => !strict && !fraction.isEmpty
    | ['0'] => true
    | c :: _ => !strict || c != '0'
  if wholeIsGood then
    let (power, after) := readExponent rest'
    some (⟨natOfDigits (whole ++ fraction), power - fraction.length⟩, after)
  else none

def natOfBase? (base : Nat) (cs : List Char) : Option Nat :=
  if cs.isEmpty then none
  else
    cs.foldlM (fun n c => (digitValue? c).bind fun d => if d < base then some (n * base + d) else none) 0

def unsignedOfChars (cs : List Char) : Number :=
  if cs = ['I', 'n', 'f', 'i', 'n', 'i', 't', 'y'] then .infinite false
  else
    match readDecimal false cs with
    | some (d, []) => d.toNumber
    | _ => .undefined

/-- The number that a value typed by a person stands for: blanks around it do not count, the empty
text is zero, and what is no number is the undefined one. -/
def ofText (s : String) : Number :=
  let inBase (base : Nat) (cs : List Char) : Number :=
    match natOfBase? base cs with
    | some n => ofNat n
    | none => .undefined
  match Text.trim s.toList with
  | [] => .finite 0
  | '0' :: x :: rest =>
    if x == 'x' || x == 'X' then inBase 16 rest
    else if x == 'o' || x == 'O' then inBase 8 rest
    else if x == 'b' || x == 'B' then inBase 2 rest
    else unsignedOfChars ('0' :: x :: rest)
  | '+' :: rest => unsignedOfChars rest
  | '-' :: rest => (unsignedOfChars rest).negate
  | cs => unsignedOfChars cs

end Number

end Wheelhouse
