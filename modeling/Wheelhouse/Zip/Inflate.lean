import Wheelhouse.Zip.Error

/-!
Decompression of deflated data. Bits are read from the low end of each byte. A stream is a sequence of
blocks, each stored as it is or coded with two prefix codes, one for literals and lengths and one for
distances. Every symbol takes at least one bit, so the number of bits bounds the work.
-/

set_option autoImplicit false

namespace Wheelhouse.Zip

structure Stream where
  bytes : ByteArray
  position : Nat
  out : ByteArray

abbrev Reading (α : Type) := EStateM InflateError Stream α

def readBit : Reading Nat := do
  let stream ← get
  match stream.bytes[stream.position / 8]? with
  | some byte =>
    set { stream with position := stream.position + 1 }
    return (byte.toNat >>> (stream.position % 8)) % 2
  | none => throw .cutOff

/-- A number whose lowest bit comes first. -/
def readBits : Nat → Reading Nat
  | 0 => return 0
  | n + 1 => do
    let low ← readBit
    let high ← readBits n
    return low + 2 * high

/-- A code given by the lengths of its words: how many words there are of each length up to the longest,
and the symbols in the order of their words. -/
structure PrefixCode where
  counts : List Nat
  symbols : Array Nat

/-- The words that remain free after those of the given counts, or `none` if there are too many. -/
def freeWords : Nat → List Nat → Option Nat
  | free, [] => some free
  | free, n :: rest => if 2 * free < n then none else freeWords (2 * free - n) rest

/-- The code with words of the given lengths; a length of zero stands for no word. A code without words
still takes a bit to find that out. -/
def PrefixCode.ofLengths (lengths : List Nat) : PrefixCode :=
  let symbols := lengths.zipIdx
  let longest := lengths.foldl max 1
  { counts := (List.range longest).map fun i => lengths.count (i + 1)
    symbols := ((List.range longest).flatMap fun i =>
      (symbols.filter fun s => s.1 == i + 1).map (·.2)).toArray }

/-- Reads one symbol: `code` is the word so far, `first` the first word of its length, and `index` how
many symbols have shorter words. -/
def readWord (symbols : Array Nat) : List Nat → Nat → Nat → Nat → Reading Nat
  | [], _, _, _ => throw .damaged
  | count :: rest, code, first, index => do
    let bit ← readBit
    let code := code + bit
    -- The words of one length are consecutive, and those that are left over start longer ones.
    if code < first + count then return symbols.getD (index + (code - first)) 0
    else readWord symbols rest (2 * code) (2 * (first + count)) (index + count)

def readSymbol (code : PrefixCode) : Reading Nat :=
  readWord code.symbols code.counts 0 0 0

/-- The shortest copy of each length symbol from 257 on, and how many further bits it takes. -/
def lengthSymbols : Array (Nat × Nat) := #[
  (3, 0), (4, 0), (5, 0), (6, 0), (7, 0), (8, 0), (9, 0), (10, 0), (11, 1), (13, 1), (15, 1), (17, 1),
  (19, 2), (23, 2), (27, 2), (31, 2), (35, 3), (43, 3), (51, 3), (59, 3), (67, 4), (83, 4), (99, 4),
  (115, 4), (131, 5), (163, 5), (195, 5), (227, 5), (258, 0)]

def distanceSymbols : Array (Nat × Nat) := #[
  (1, 0), (2, 0), (3, 0), (4, 0), (5, 1), (7, 1), (9, 2), (13, 2), (17, 3), (25, 3), (33, 4), (49, 4),
  (65, 5), (97, 5), (129, 6), (193, 6), (257, 7), (385, 7), (513, 8), (769, 8), (1025, 9), (1537, 9),
  (2049, 10), (3073, 10), (4097, 11), (6145, 11), (8193, 12), (12289, 12), (16385, 13), (24577, 13)]

def readFrom (table : Array (Nat × Nat)) (symbol : Nat) : Reading Nat :=
  match table[symbol]? with
  | some (least, extra) => return least + (← readBits extra)
  | none => throw .damaged

def copyBack : Nat → Nat → ByteArray → ByteArray
  | 0, _, out => out
  | n + 1, distance, out => copyBack n distance (out.push (out[out.size - distance]?.getD 0))

def write (extend : ByteArray → ByteArray) : Reading Unit :=
  modify fun s => { s with out := extend s.out }

def readCoded (literals distances : PrefixCode) : Nat → Reading Unit
  | 0 => throw .cutOff
  | fuel + 1 => do
    let symbol ← readSymbol literals
    if symbol < 256 then
      write (·.push (UInt8.ofNat symbol))
      readCoded literals distances fuel
    else if symbol = 256 then return
    else
      let length ← readFrom lengthSymbols (symbol - 257)
      let distance ← readFrom distanceSymbols (← readSymbol distances)
      if (← get).out.size < distance then throw .damaged
      write (copyBack length distance)
      readCoded literals distances fuel

def readBytes : Nat → Reading Unit
  | 0 => return
  | n + 1 => do
    let byte ← readBits 8
    write (·.push (UInt8.ofNat byte))
    readBytes n

/-- A block that is stored as it is, from the next whole byte on. -/
def readStored : Reading Unit := do
  modify fun s => { s with position := (s.position + 7) / 8 * 8 }
  let length ← readBits 16
  let check ← readBits 16
  -- The length is given twice, the second time with all bits turned.
  if length + check ≠ 65535 then throw .damaged
  readBytes length

def fixedLiterals : PrefixCode :=
  .ofLengths (List.replicate 144 8 ++ List.replicate 112 9 ++ List.replicate 24 7 ++ List.replicate 8 8)

/-- Two of the words stand for no distance. -/
def fixedDistances : PrefixCode := .ofLengths (List.replicate 32 5)

/-- The order in which the lengths of the code for code lengths are given. -/
def lengthOrder : List Nat := [16, 17, 18, 0, 8, 7, 9, 6, 10, 5, 11, 4, 12, 3, 13, 2, 14, 1, 15]

def readNumbers : Nat → Reading (List Nat)
  | 0 => return []
  | n + 1 => do
    let first ← readBits 3
    return first :: (← readNumbers n)

def readLengths (code : PrefixCode) (wanted : Nat) : Nat → Array Nat → Reading (Array Nat)
  | 0, _ => throw .cutOff
  | fuel + 1, lengths => do
    if lengths.size = wanted then return lengths
    if wanted < lengths.size then throw .damaged
    let symbol ← readSymbol code
    if symbol < 16 then readLengths code wanted fuel (lengths.push symbol)
    else if symbol = 16 then
      let n ← readBits 2
      match lengths.back? with
      | none => throw .damaged
      | some last => readLengths code wanted fuel (lengths ++ Array.replicate (3 + n) last)
    else
      let n ← if symbol = 17 then (3 + ·) <$> readBits 3 else (11 + ·) <$> readBits 7
      readLengths code wanted fuel (lengths ++ Array.replicate n 0)

/-- The code for code lengths. It may not leave words free; but if it has no word at all, every bit stands
for a length of zero. -/
def lengthCode? (given : List Nat) : Option PrefixCode :=
  let places := lengthOrder.zip given
  let code := PrefixCode.ofLengths ((List.range 19).map fun i => (places.lookup i).getD 0)
  if code.symbols.isEmpty then some ⟨[2], #[0, 0]⟩
  else if freeWords 1 code.counts = some 0 then some code
  else none

/-- A code is usable if it leaves no word free, or has words of length one only. -/
def isUsable (code : PrefixCode) : Bool :=
  match freeWords 1 code.counts with
  | none => false
  | some free => free = 0 || code.counts.length = 1

def readCodes : Reading (PrefixCode × PrefixCode) := do
  let literalCount := 257 + (← readBits 5)
  let distanceCount := 1 + (← readBits 5)
  let lengthCount := 4 + (← readBits 4)
  if 286 < literalCount || 30 < distanceCount then throw .damaged
  let some lengthCode := lengthCode? (← readNumbers lengthCount) | throw .damaged
  let wanted := literalCount + distanceCount
  -- Both codes share one list, so that a repetition may run from the first into the second.
  let lengths ← readLengths lengthCode wanted (wanted + 1) #[]
  -- Without a word for its end the block could not end.
  if lengths.getD 256 0 = 0 then throw .damaged
  let literals := PrefixCode.ofLengths (lengths.toList.take literalCount)
  let distances := PrefixCode.ofLengths (lengths.toList.drop literalCount)
  if isUsable literals && isUsable distances then return (literals, distances)
  else throw .damaged

def readBlocks : Nat → Reading Unit
  | 0 => throw .cutOff
  | fuel + 1 => do
    let last ← readBit
    let kind ← readBits 2
    let room := (← get).bytes.size * 8 + 1
    if kind = 0 then readStored
    else if kind = 1 then readCoded fixedLiterals fixedDistances room
    else if kind = 2 then do
      let (literals, distances) ← readCodes
      readCoded literals distances room
    else throw .damaged
    if last = 1 then return else readBlocks fuel

/-- Decompressed data are handed over in pieces of this size. -/
def pieceSize : Nat := 16384

/-- How much had been handed over when a fault was met after so many bytes. A damaged symbol is found while
the piece before it is still held; the end of the data is found only after a full piece has gone. -/
def handedOver (produced : Nat) : InflateError → Nat
  | .cutOff => produced / pieceSize * pieceSize
  | _ => (produced - 1) / pieceSize * pieceSize

def exceeds (limit : Option Nat) (size : Nat) : Bool :=
  match limit with
  | some most => most < size
  | none => false

/-- The data that a deflated stream holds. What follows the stream does not count. More data than the limit
are refused as soon as they are handed over, before a fault further on is found. -/
def inflate (limit : Option Nat) (bytes : ByteArray) : Except InflateError ByteArray :=
  match (readBlocks (bytes.size * 8 + 1)).run ⟨bytes, 0, .empty⟩ with
  | .ok _ stream => if exceeds limit stream.out.size then .error .tooLarge else .ok stream.out
  | .error e stream => .error (if exceeds limit (handedOver stream.out.size e) then .tooLarge else e)

end Wheelhouse.Zip
