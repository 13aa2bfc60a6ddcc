/-!
The 32-bit cyclic redundancy check that archives keep of their entries. A checksum is a remainder modulo a
fixed polynomial over the field of two elements, its highest bit standing for one; `shift` multiplies by
the unknown. So a run of zeros, however long, multiplies by one power of the unknown.
-/

set_option autoImplicit false

namespace Wheelhouse.Crc32

def shift (crc : UInt32) : UInt32 :=
  if crc &&& 1 = 1 then (crc >>> 1) ^^^ 0xEDB88320 else crc >>> 1

def shiftMany : Nat → UInt32 → UInt32
  | 0, crc => crc
  | n + 1, crc => shiftMany n (shift crc)

def step (crc : UInt32) (byte : UInt8) : UInt32 :=
  shiftMany 8 (crc ^^^ byte.toUInt32)

/-- The product of two remainders, by the given number of highest bits of the first. -/
def product : Nat → UInt32 → UInt32 → UInt32
  | 0, _, _ => 0
  | n + 1, a, b => (if a &&& 0x80000000 = 0 then 0 else b) ^^^ product n (a <<< 1) (shift b)

def one : UInt32 := 0x80000000

def power (n : Nat) : UInt32 :=
  if n = 0 then one
  else
    let half := power (n / 2)
    let square := product 32 half half
    if n % 2 = 0 then square else shift square

/-- The checksum of bytes that a number of zeros follows. -/
def checksum (bytes : ByteArray) (zeros : Nat) : UInt32 :=
  product 32 (power (8 * zeros)) (bytes.foldl step 0xFFFFFFFF) ^^^ 0xFFFFFFFF

end Wheelhouse.Crc32
