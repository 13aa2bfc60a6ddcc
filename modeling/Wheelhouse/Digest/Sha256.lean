set_option autoImplicit false

namespace Wheelhouse.Sha256

structure Words where
  a : UInt32
  b : UInt32
  c : UInt32
  d : UInt32
  e : UInt32
  f : UInt32
  g : UInt32
  h : UInt32

def start : Words :=
  ⟨0x6a09e667, 0xbb67ae85, 0x3c6ef372, 0xa54ff53a, 0x510e527f, 0x9b05688c, 0x1f83d9ab, 0x5be0cd19⟩

def constants : Array UInt32 := #[
  0x428a2f98, 0x71374491, 0xb5c0fbcf, 0xe9b5dba5, 0x3956c25b, 0x59f111f1, 0x923f82a4, 0xab1c5ed5,
  0xd807aa98, 0x12835b01, 0x243185be, 0x550c7dc3, 0x72be5d74, 0x80deb1fe, 0x9bdc06a7, 0xc19bf174,
  0xe49b69c1, 0xefbe4786, 0x0fc19dc6, 0x240ca1cc, 0x2de92c6f, 0x4a7484aa, 0x5cb0a9dc, 0x76f988da,
  0x983e5152, 0xa831c66d, 0xb00327c8, 0xbf597fc7, 0xc6e00bf3, 0xd5a79147, 0x06ca6351, 0x14292967,
  0x27b70a85, 0x2e1b2138, 0x4d2c6dfc, 0x53380d13, 0x650a7354, 0x766a0abb, 0x81c2c92e, 0x92722c85,
  0xa2bfe8a1, 0xa81a664b, 0xc24b8b70, 0xc76c51a3, 0xd192e819, 0xd6990624, 0xf40e3585, 0x106aa070,
  0x19a4c116, 0x1e376c08, 0x2748774c, 0x34b0bcb5, 0x391c0cb3, 0x4ed8aa4a, 0x5b9cca4f, 0x682e6ff3,
  0x748f82ee, 0x78a5636f, 0x84c87814, 0x8cc70208, 0x90befffa, 0xa4506ceb, 0xbef9a3f7, 0xc67178f2]

def rotate (x : UInt32) (n : UInt32) : UInt32 := (x >>> n) ||| (x <<< (32 - n))

def blockCount (size : Nat) : Nat := (size + 9 + 63) / 64

/-- A byte of the padded message: the message, a single bit, zeros, and the length in bits. -/
def paddedByte (message : ByteArray) (i : Nat) : UInt8 :=
  let size := message.size
  let total := 64 * blockCount size
  if i < size then message.get! i
  else if i = size then 0x80
  else if i + 8 < total then 0
  else UInt8.ofNat ((size * 8) >>> (8 * (total - 1 - i)))

def wordAt (message : ByteArray) (i : Nat) : UInt32 :=
  let byte (k : Nat) : UInt32 := (paddedByte message (i + k)).toUInt32
  (byte 0 <<< 24) ||| (byte 1 <<< 16) ||| (byte 2 <<< 8) ||| byte 3

def nextWord (schedule : Array UInt32) : UInt32 :=
  let w (back : Nat) : UInt32 := schedule.getD (schedule.size - back) 0
  let s0 := rotate (w 15) 7 ^^^ rotate (w 15) 18 ^^^ (w 15 >>> 3)
  let s1 := rotate (w 2) 17 ^^^ rotate (w 2) 19 ^^^ (w 2 >>> 10)
  w 16 + s0 + w 7 + s1

def extend : Nat → Array UInt32 → Array UInt32
  | 0, schedule => schedule
  | n + 1, schedule => extend n (schedule.push (nextWord schedule))

def schedule (message : ByteArray) (block : Nat) : Array UInt32 :=
  extend 48 (Array.ofFn fun i : Fin 16 => wordAt message (64 * block + 4 * i.val))

def step (s : Words) (constant word : UInt32) : Words :=
  let s1 := rotate s.e 6 ^^^ rotate s.e 11 ^^^ rotate s.e 25
  let choice := (s.e &&& s.f) ^^^ (s.e.complement &&& s.g)
  let t1 := s.h + s1 + choice + constant + word
  let s0 := rotate s.a 2 ^^^ rotate s.a 13 ^^^ rotate s.a 22
  let majority := (s.a &&& s.b) ^^^ (s.a &&& s.c) ^^^ (s.b &&& s.c)
  ⟨t1 + (s0 + majority), s.a, s.b, s.c, s.d + t1, s.e, s.f, s.g⟩

def compress (message : ByteArray) (s : Words) (block : Nat) : Words :=
  let words := schedule message block
  let t := (List.range 64).foldl (fun t i => step t (constants.getD i 0) (words.getD i 0)) s
  ⟨s.a + t.a, s.b + t.b, s.c + t.c, s.d + t.d, s.e + t.e, s.f + t.f, s.g + t.g, s.h + t.h⟩

def digest (message : ByteArray) : Words :=
  (List.range (blockCount message.size)).foldl (compress message) start

def hexDigit (n : Nat) : Char :=
  Char.ofNat (if n < 10 then 48 + n else 87 + n)

def hexDigits : Nat → Nat → List Char
  | 0, _ => []
  | count + 1, n => hexDigits count (n / 16) ++ [hexDigit (n % 16)]

def hex (s : Words) : List Char :=
  [s.a, s.b, s.c, s.d, s.e, s.f, s.g, s.h].flatMap fun w => hexDigits 8 w.toNat

def isHexDigit (c : Char) : Bool :=
  c.isDigit || ('a' ≤ c && c ≤ 'f')

theorem isHexDigit_hexDigit {n : Nat} (h : n < 16) : isHexDigit (hexDigit n) = true := by
  have : ∀ k < 16, isHexDigit (hexDigit k) = true := by decide
  exact this n h

theorem length_hexDigits (count n : Nat) : (hexDigits count n).length = count := by
  induction count generalizing n with
  | zero => rfl
  | succ count ih => simp [hexDigits, ih]

theorem isHexDigit_of_mem_hexDigits {count n : Nat} {c : Char} (h : c ∈ hexDigits count n) :
    isHexDigit c = true := by
  induction count generalizing n with
  | zero => simp [hexDigits] at h
  | succ count ih =>
    rcases List.mem_append.1 h with h | h
    · exact ih h
    · rw [List.mem_singleton.1 h]
      exact isHexDigit_hexDigit (Nat.mod_lt _ (by decide))

theorem length_hex (s : Words) : (hex s).length = 64 := by
  simp [hex, length_hexDigits]

theorem isHexDigit_of_mem_hex {s : Words} {c : Char} (h : c ∈ hex s) : isHexDigit c = true := by
  obtain ⟨w, _, hc⟩ := List.mem_flatMap.1 h
  exact isHexDigit_of_mem_hexDigits hc

def hexDigest (message : ByteArray) : String := String.ofList (hex (digest message))

end Wheelhouse.Sha256
