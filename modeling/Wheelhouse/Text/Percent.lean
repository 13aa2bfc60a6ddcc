import Wheelhouse.Number.Decimal
import Wheelhouse.Text.Utf8

/-!
Percent encoding. `percentEncode` writes each byte of a text that is not a plain letter, digit or one
of a few marks as a percent sign and two digits; `percentDecode?` reads such a text, which must give
well-formed UTF-8. Addresses are written and read more freely: `percentEscape` writes only the characters
of a class so, and `percentUnescape` leaves a percent sign without digits as it is.
-/

set_option autoImplicit false

namespace Wheelhouse.Text

def isPlain (c : Char) : Bool :=
  c.isAlphanum || ['-', '_', '.', '!', '~', '*', '\'', '(', ')'].contains c

def upperHexDigit (n : Nat) : Char :=
  Char.ofNat (if n < 10 then 48 + n else 55 + n)

def escapeByte (b : UInt8) : List Char :=
  ['%', upperHexDigit (b.toNat / 16), upperHexDigit (b.toNat % 16)]

def encodeByte (b : UInt8) : List Char :=
  let n := b.toNat
  if n < 128 && isPlain (Char.ofNat n) then [Char.ofNat n] else escapeByte b

def percentEncode (s : String) : String :=
  String.ofList ((encode s).toList.flatMap encodeByte)

def charBytes (c : Char) : List UInt8 := (encode (String.singleton c)).toList

/-- The bytes that a text stands for, if every percent sign has two digits after it. -/
def percentBytes? : List Char → Option (List UInt8)
  | [] => some []
  | '%' :: a :: b :: rest =>
    match Number.digitValue? a, Number.digitValue? b with
    | some high, some low => (percentBytes? rest).map fun bs => UInt8.ofNat (high * 16 + low) :: bs
    | _, _ => none
  | '%' :: _ => none
  | c :: rest => (percentBytes? rest).map fun bs => charBytes c ++ bs

def percentDecode? (s : String) : Option String :=
  (percentBytes? s.toList).bind fun bytes => decode? ⟨bytes.toArray⟩

def percentEscape (isEscaped : Char → Bool) (cs : List Char) : List Char :=
  cs.flatMap fun c => if isEscaped c then (charBytes c).flatMap escapeByte else [c]

def percentUnescape : List Char → List UInt8
  | [] => []
  | '%' :: a :: b :: rest =>
    match Number.digitValue? a, Number.digitValue? b with
    | some high, some low => UInt8.ofNat (high * 16 + low) :: percentUnescape rest
    | _, _ => charBytes '%' ++ percentUnescape (a :: b :: rest)
  | c :: rest => charBytes c ++ percentUnescape rest

end Wheelhouse.Text
