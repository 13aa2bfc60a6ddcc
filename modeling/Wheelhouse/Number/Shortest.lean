import Wheelhouse.Number.Decimal

set_option autoImplicit false

namespace Wheelhouse

namespace Number

/-- A bound for the decimal exponent of a positive number: `10 ^ (decimalPoint q - 1) ≤ q` and
`q < 10 ^ decimalPoint q`. -/
def decimalPoint (q : Rat) : Int :=
  let guess : Int := Decimal.digitCount q.num.natAbs - Decimal.digitCount q.den
  if (10 : Rat) ^ guess ≤ q then guess + 1 else guess

/-- The decimals of `count` digits on either side of a positive number, the nearer one first. -/
def neighbours (q : Rat) (count : Nat) : List Decimal :=
  let exponent := decimalPoint q - count
  let scaled := q * (10 : Rat) ^ (-exponent)
  let low := scaled.floor.toNat
  let rest := scaled - low
  if rest < 1 / 2 || (rest = 1 / 2 && low % 2 = 0) then [⟨low, exponent⟩, ⟨low + 1, exponent⟩]
  else [⟨low + 1, exponent⟩, ⟨low, exponent⟩]

/-- A decimal that is exactly a number whose denominator is a power of two. -/
def exactDecimal (q : Rat) : Decimal :=
  let bits := q.den.log2
  ⟨q.num.natAbs * Nat.pow 5 bits, -(bits : Int)⟩

/-- The shortest decimal that reads back as the positive number `q`. -/
def shortestDecimal (q : Rat) : Decimal :=
  let candidates := (List.range 17).flatMap fun k => neighbours q (k + 1)
  match candidates.find? fun d => d.toNumber = .finite q with
  | some d => d
  | none => exactDecimal q

def stripZeros (digits : List Char) : List Char × Nat :=
  let kept := (digits.reverse.dropWhile (· == '0')).reverse
  (kept, digits.length - kept.length)

def zeros (n : Nat) : List Char := List.replicate n '0'

def digitsOf (n : Nat) : List Char := Nat.toDigits 10 n

/-- Digits with the decimal point after the first `point` of them; very large and very small numbers
are written with an exponent. -/
def layOut (digits : List Char) (point : Int) : List Char :=
  let count : Int := digits.length
  if count ≤ point && point ≤ 21 then digits ++ zeros (point - count).toNat
  else if 0 < point && point ≤ 21 then digits.take point.toNat ++ '.' :: digits.drop point.toNat
  else if -6 < point && point ≤ 0 then '0' :: '.' :: zeros (-point).toNat ++ digits
  else
    let power := point - 1
    let mantissa :=
      match digits with
      | d :: e :: rest => d :: '.' :: e :: rest
      | ds => ds
    mantissa ++ 'e' :: (if power < 0 then '-' else '+') :: digitsOf power.natAbs

def positiveText (q : Rat) : List Char :=
  let d := shortestDecimal q
  let written := digitsOf d.digits
  layOut (stripZeros written).1 (written.length + d.exponent)

def chars : Number → List Char
  | .finite q =>
    if q = 0 then ['0'] else if q < 0 then '-' :: positiveText (-q) else positiveText q
  | .infinite negative => (if negative then "-Infinity" else "Infinity").toList
  | .undefined => "NaN".toList

def text (n : Number) : String := String.ofList n.chars

/-- A number rounded to hundredths, halves upwards. Numbers from 10²¹ on stay as they are. -/
def toCents : Number → Number
  | .finite q => if q.abs < (10 : Rat) ^ (21 : Int) then round ((q * 100 + 1 / 2).floor / 100) else .finite q
  | other => other

end Number

end Wheelhouse
