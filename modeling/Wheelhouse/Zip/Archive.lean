import Wheelhouse.Digest.Crc32
import Wheelhouse.Number.Binary64
import Wheelhouse.Text.Utf8
import Wheelhouse.Zip.Inflate

/-!
Zip archives. The record at the end of an archive tells where its directory is, and the directory
lists the entries. `entries` reads the directory, and `Entry.contents` the data of one entry, which
must agree with the checksum kept before or after them. An archive may have a long end record, whose
numbers have 64 bits, and entries may keep such numbers in their extra fields.
-/

set_option autoImplicit false

namespace Wheelhouse.Zip

structure Entry where
  name : String
  flags : Nat
  method : Nat
  crc : Nat
  compressedSize : Nat
  size : Nat
  offset : Nat

/-- The number in `count` bytes from a place on, lowest byte first. -/
def number (bytes : ByteArray) (start : Nat) : Nat → Nat
  | 0 => 0
  | count + 1 => (bytes[start]?.getD 0).toNat + 256 * number bytes (start + 1) count

def number? (bytes : ByteArray) (start count : Nat) : Except ArchiveError Nat :=
  if start + count ≤ bytes.size then .ok (number bytes start count) else .error .cutRecord

def endSignature : Nat := 0x06054b50
def longEndSignature : Nat := 0x06064b50
def locatorSignature : Nat := 0x07064b50
def directorySignature : Nat := 0x02014b50
def entrySignature : Nat := 0x04034b50
def descriptorSignature : Nat := 0x08074b50

def endSize : Nat := 22
def longEndSize : Nat := 56
def locatorSize : Nat := 20
def directorySize : Nat := 46
def entrySize : Nat := 30

/-! ### The end record -/

inductive EndRecord where
  | short (place : Nat)
  | long (place : Nat)

/-- Looks for the end record below a place, down to `bound`. Before a short record there may be a locator,
and then a long one further down to `lowest`, which is preferred. -/
def search (bytes : ByteArray) (lowest : Nat) : Nat → Nat → Option EndRecord → Option EndRecord
  | 0, _, found => found
  | place + 1, bound, found =>
    if place < bound then found
    else
      let signature := number bytes place 4
      if signature = endSignature then
        search bytes lowest place (place - locatorSize) (some (.short place))
      else if signature = locatorSignature then search bytes lowest place lowest found
      else if signature = longEndSignature then some (.long place)
      else search bytes lowest place bound found

/-- The end record of an archive. A comment of at most 65535 bytes may follow it. -/
def endRecord? (bytes : ByteArray) : Option EndRecord :=
  if bytes.size < endSize then none
  else
    let lowest := bytes.size - endSize - 65535
    search bytes lowest (bytes.size - endSize + 1) lowest none

structure Directory where
  count : Nat
  start : Nat

def Directory.ofRecord? (bytes : ByteArray) : EndRecord → Option Directory
  | .short place => some ⟨number bytes (place + 8) 2, number bytes (place + 16) 4⟩
  | .long place =>
    -- The size that the record gives leaves out its first twelve bytes.
    let stop := min bytes.size (place + 12 + number bytes (place + 4) 8)
    if place + longEndSize ≤ stop then
      some ⟨number bytes (place + 24) 8, number bytes (place + 48) 8⟩
    else none

/-! ### The directory -/

/-- The parts of an extra field with their kinds, from a place on. The last part may be cut off. -/
def parts (extra : ByteArray) (start : Nat) : List (Nat × ByteArray) :=
  if start + 4 < extra.size then
    let next := start + 4 + number extra (start + 2) 2
    (number extra start 2, extra.extract (start + 4) next) :: parts extra next
  else []
termination_by extra.size - start

def longNumbers : Nat := 1

/-- A field with this value stands for a number of 64 bits. -/
def full : Nat := 0xFFFFFFFF

/-- What is kept of a number of 64 bits: it is read with a limited precision, and of that the lowest 32 bits
count. -/
def kept (n : Nat) : Nat := ((Number.ofNat n).nat?.getD 0) % 0x100000000

def widened (part : ByteArray) (place field : Nat) : Nat :=
  if field = full && place + 8 ≤ part.size then kept (number part place 8) else field

def Entry.widen (entry : Entry) (part : Nat × ByteArray) : Entry :=
  if part.1 = longNumbers then
    { entry with
      size := widened part.2 0 entry.size
      compressedSize := widened part.2 8 entry.compressedSize
      offset := widened part.2 16 entry.offset }
  else entry

def readEntry (bytes : ByteArray) (start : Nat) : Except ArchiveError (Entry × Nat) := do
  if start + directorySize ≤ bytes.size then
    if number bytes start 4 ≠ directorySignature then throw .malformed
    let field (place count : Nat) : Nat := number bytes (start + place) count
    let nameStart := start + directorySize
    let nameEnd := nameStart + field 28 2
    let extraEnd := nameEnd + field 30 2
    let entry : Entry :=
      { name := Text.decode (bytes.extract nameStart nameEnd)
        flags := field 8 2
        method := field 10 2
        crc := field 16 4
        compressedSize := field 20 4
        size := field 24 4
        offset := field 42 4 }
    return ((parts (bytes.extract nameEnd extraEnd) 0).foldl Entry.widen entry, extraEnd + field 32 2)
  else throw .malformed

def readEntries (bytes : ByteArray) : Nat → Nat → Except ArchiveError (List Entry)
  | 0, _ => return []
  | count + 1, start => do
    let (entry, next) ← readEntry bytes start
    return entry :: (← readEntries bytes count next)

def entries (bytes : ByteArray) : Except ArchiveError (List Entry) :=
  match (endRecord? bytes).bind (Directory.ofRecord? bytes) with
  | none => .error .malformed
  | some directory =>
    if directory.start + directory.count * directorySize ≤ bytes.size then
      readEntries bytes directory.count directory.start
    else .error .malformed

/-! ### The data of an entry -/

structure Descriptor where
  crc : Nat
  compressedSize : Nat
  size : Nat
  deriving DecidableEq

def signatureStart : Nat := 0x4b50

/-- The descriptor after the data of an entry. Without a signature of its own it is known by that of the
record after it. -/
def descriptorAt (bytes : ByteArray) (place : Nat) : Except ArchiveError Descriptor := do
  let signature ← number? bytes place 4
  if signature = entrySignature || signature = directorySignature then throw .descriptor
  let start ←
    if signature = descriptorSignature then pure (place + 4)
    else if (← number? bytes (place + 12) 2) = signatureStart then pure place
    else throw .descriptor
  return ⟨← number? bytes start 4, ← number? bytes (start + 4) 4, ← number? bytes (start + 8) 4⟩

structure LocalRecord where
  flags : Nat
  crc : Nat
  dataStart : Nat

def localRecord (bytes : ByteArray) (offset : Nat) : Except ArchiveError LocalRecord := do
  let record := bytes.extract offset (offset + entrySize)
  if record.size < 4 then throw .noRecord
  if number record 0 4 ≠ entrySignature then throw .malformed
  if record.size < entrySize then throw .cutRecord
  return ⟨number record 6 2, number record 14 4,
    offset + entrySize + number record 26 2 + number record 28 2⟩

/-- Whether flags say that the checksum follows the data. -/
def hasDescriptor (flags : Nat) : Bool := flags / 8 % 2 = 1

def isEncrypted (flags : Nat) : Bool := flags % 2 = 1

def Entry.expectedCrc (bytes : ByteArray) (entry : Entry) (before : LocalRecord) :
    Except ArchiveError Nat := do
  if hasDescriptor entry.flags || hasDescriptor before.flags then
    let descriptor ← descriptorAt bytes (before.dataStart + entry.compressedSize)
    if descriptor ≠ ⟨entry.crc, entry.compressedSize, entry.size⟩ then throw .descriptor
    return entry.crc
  else return before.crc

def Entry.unpack (entry : Entry) (packed : ByteArray) : Except ArchiveError ByteArray :=
  if entry.method = 0 then .ok packed
  else if entry.method = 8 then
    -- A size of zero sets no limit.
    (inflate (if entry.size = 0 then none else some entry.size) packed).mapError .inflate
  else .error .unsupported

/-- The data of an entry, cut or filled with zeros to its size. An entry whose compressed data are empty is
empty and is not checked. -/
def Entry.contents (bytes : ByteArray) (entry : Entry) : Except ArchiveError ByteArray := do
  let before ← localRecord bytes entry.offset
  let packed := bytes.extract before.dataStart (before.dataStart + entry.compressedSize)
  -- Nothing was packed, so there is nothing that a checksum could refuse.
  if packed.isEmpty then return .empty
  if isEncrypted entry.flags then throw .unsupported
  let data := (← entry.unpack packed).extract 0 entry.size
  let zeros := entry.size - data.size
  let crc ← entry.expectedCrc bytes before
  if (Crc32.checksum data zeros).toNat ≠ crc then throw .checksum
  return data ++ ⟨Array.replicate zeros 0⟩

end Wheelhouse.Zip
