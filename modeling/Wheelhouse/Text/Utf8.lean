/-!
Bytes and text. `encode` writes a text as UTF-8. `decode` reads bytes that may be damaged: each
longest beginning of a malformed sequence becomes one replacement character. Main statement:
`decode` undoes `encode`.
-/

set_option autoImplicit false

namespace Wheelhouse.Text

/-- A character whose lead byte has been read: the bits so far, how many bytes are still to come, and
the range the next one must lie in. -/
structure PartialChar where
  bits : Nat
  missing : Nat
  low : Nat
  high : Nat

def replacement : Char := '\uFFFD'

/-- What a byte at the start of a character means: a character, or the start of a longer one. The
narrowed ranges keep out overlong forms, surrogates and code points beyond U+10FFFF. -/
def leadByte (b : Nat) : Char ⊕ PartialChar :=
  if b < 0x80 then .inl (Char.ofNat b)
  else if b < 0xC2 then .inl replacement
  else if b < 0xE0 then .inr ⟨b - 0xC0, 1, 0x80, 0xBF⟩
  else if b == 0xE0 then .inr ⟨0, 2, 0xA0, 0xBF⟩
  else if b == 0xED then .inr ⟨0xD, 2, 0x80, 0x9F⟩
  else if b < 0xF0 then .inr ⟨b - 0xE0, 2, 0x80, 0xBF⟩
  else if b == 0xF0 then .inr ⟨0, 3, 0x90, 0xBF⟩
  else if b < 0xF4 then .inr ⟨b - 0xF0, 3, 0x80, 0xBF⟩
  else if b == 0xF4 then .inr ⟨4, 3, 0x80, 0x8F⟩
  else .inl replacement

/-- Reads bytes with `open?` the character that is being read, if any. -/
def decodeBytes (open? : Option PartialChar) : List UInt8 → List Char
  | [] => if open?.isSome then [replacement] else []
  | b :: bs =>
    let n := b.toNat
    let start : List Char :=
      match leadByte n with
      | .inl c => c :: decodeBytes none bs
      | .inr p => decodeBytes (some p) bs
    match open? with
    | none => start
    | some p =>
      if p.low ≤ n && n ≤ p.high then
        let bits := p.bits * 64 + (n - 0x80)
        if p.missing ≤ 1 then Char.ofNat bits :: decodeBytes none bs
        else decodeBytes (some ⟨bits, p.missing - 1, 0x80, 0xBF⟩) bs
      else replacement :: start

def encode (s : String) : ByteArray := s.toUTF8

def decode (bytes : ByteArray) : String :=
  match String.fromUTF8? bytes with
  | some s => s
  | none => String.ofList (decodeBytes none bytes.toList)

theorem fromUTF8?_encode (s : String) : String.fromUTF8? (encode s) = some s := by
  simp only [String.fromUTF8?, encode, String.toUTF8_eq_toByteArray, dif_pos s.isValidUTF8]
  rfl

@[simp] theorem decode_encode (s : String) : decode (encode s) = s := by
  simp only [decode, fromUTF8?_encode]

def decode? (bytes : ByteArray) : Option String := String.fromUTF8? bytes

end Wheelhouse.Text
