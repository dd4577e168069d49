import FrameDetect.Image.Bits
import FrameDetect.Image.Bytes
import FrameDetect.Image.Checksum

/-!
# Compressed data

Data in the container of the compression format.  It is written in blocks that store it as it is, and
read from blocks of any kind: symbols stand for bytes, or for bytes that are repeated from before.
-/

namespace FrameDetect.Image.Deflate

/-! ## Writing -/

/-- The greatest length of a stored block. -/
def blockSize : Nat := 65535

/-- Data as stored blocks, after those in `done`.  There are as many as `left` blocks after the first
one. -/
def storedBlocks (done data : ByteArray) (start : Nat) : Nat → ByteArray
  | 0 =>
    let size := data.size - start
    push done (1 :: littleEndian 2 size ++ littleEndian 2 (blockSize - size)) ++
      data.extract start data.size
  | left + 1 =>
    let stop := start + blockSize
    let block := push done (0 :: littleEndian 2 blockSize ++ littleEndian 2 0)
    storedBlocks (block ++ data.extract start stop) data stop left

/-- Data in the container, stored. -/
def stored (data : ByteArray) : ByteArray :=
  let blocks := storedBlocks (bytesOf [0x78, 0x01]) data 0 ((data.size - 1) / blockSize)
  push blocks (bigEndian 4 (sumChecksum data).toNat)

/-! ## Reading -/

/-- The least length of each symbol for a repetition, and the number of bits that add to it. -/
def repeatLengths : Array (Nat × Nat) :=
  #[(3, 0), (4, 0), (5, 0), (6, 0), (7, 0), (8, 0), (9, 0), (10, 0), (11, 1), (13, 1), (15, 1),
    (17, 1), (19, 2), (23, 2), (27, 2), (31, 2), (35, 3), (43, 3), (51, 3), (59, 3), (67, 4), (83, 4),
    (99, 4), (115, 4), (131, 5), (163, 5), (195, 5), (227, 5), (258, 0)]

/-- The least distance of each symbol for where a repetition is found, and the number of bits that add
to it. -/
def repeatDistances : Array (Nat × Nat) :=
  #[(1, 0), (2, 0), (3, 0), (4, 0), (5, 1), (7, 1), (9, 2), (13, 2), (17, 3), (25, 3), (33, 4),
    (49, 4), (65, 5), (97, 5), (129, 6), (193, 6), (257, 7), (385, 7), (513, 8), (769, 8), (1025, 9),
    (1537, 9), (2049, 10), (3073, 10), (4097, 11), (6145, 11), (8193, 12), (12289, 12), (16385, 13),
    (24577, 13)]

/-- The value of a symbol with the bits that add to it. -/
def extended? (table : Array (Nat × Nat)) (symbol : Nat) (r : BitReader) :
    Option (Nat × BitReader) := do
  let (least, extra) ← table[symbol]?
  let (more, r) ← r.bits? extra
  return (least + more, r)

/-- Adds `count` bytes, each the one at a distance before the end. -/
def repeatBack (data : ByteArray) (distance : Nat) : Nat → ByteArray
  | 0 => data
  | count + 1 => repeatBack (data.push (data[data.size - distance]?.getD 0)) distance count

/-- The symbol that ends a block. -/
def endOfBlock : Nat := 256

/-- Reads symbols until a block ends, adding to the data before it.  A symbol takes at least a bit. -/
def readSymbols? (literals distances : PrefixCode) (r : BitReader) (data : ByteArray) :
    Nat → Option (ByteArray × BitReader)
  | 0 => none
  | fuel + 1 => do
    let (symbol, r) ← literals.read? r
    if symbol < endOfBlock then
      readSymbols? literals distances r (data.push (UInt8.ofNat symbol)) fuel
    else if symbol = endOfBlock then return (data, r)
    else
      let (count, r) ← extended? repeatLengths (symbol - endOfBlock - 1) r
      let (symbol, r) ← distances.read? r
      let (distance, r) ← extended? repeatDistances symbol r
      if data.size < distance then none
      else readSymbols? literals distances r (repeatBack data distance count) fuel

/-- The order in which the lengths of the codes for lengths are written. -/
def lengthOrder : List Nat := [16, 17, 18, 0, 8, 7, 9, 6, 10, 5, 11, 4, 12, 3, 13, 2, 14, 1, 15]

/-- Reads lengths of codes, the latest first, until there are `count`.  Some symbols repeat the length
before them or length zero. -/
def readLengths? (code : PrefixCode) (count : Nat) (r : BitReader) (lengths : List Nat) :
    Nat → Option (List Nat × BitReader)
  | 0 => none
  | fuel + 1 => do
    if count < lengths.length then none
    else if count = lengths.length then return (lengths.reverse, r)
    else
      let (symbol, r) ← code.read? r
      if symbol < 16 then readLengths? code count r (symbol :: lengths) fuel
      else
        let last ← if symbol = 16 then lengths.head? else some 0
        let (least, extra) := if symbol = 16 then (3, 2) else if symbol = 17 then (3, 3) else (11, 7)
        let (more, r) ← r.bits? extra
        readLengths? code count r (List.replicate (least + more) last ++ lengths) fuel

/-- Reads `count` numbers of three bits. -/
def readTriples? (r : BitReader) : Nat → Option (List Nat × BitReader)
  | 0 => some ([], r)
  | count + 1 => do
    let (n, r) ← r.bits? 3
    let (rest, r) ← readTriples? r count
    return (n :: rest, r)

/-- The codes of a block that does not bring its own. -/
def fixedCodes : PrefixCode × PrefixCode :=
  (.ofLengths (List.replicate 144 8 ++ List.replicate 112 9 ++ List.replicate 24 7 ++
      List.replicate 8 8),
    .ofLengths (List.replicate 30 5))

/-- Reads the codes of a block. -/
def readCodes? (r : BitReader) : Option ((PrefixCode × PrefixCode) × BitReader) := do
  let (literalCount, r) ← r.bits? 5
  let (distanceCount, r) ← r.bits? 5
  let (lengthCount, r) ← r.bits? 4
  let literalCount := literalCount + endOfBlock + 1
  let distanceCount := distanceCount + 1
  let (triples, r) ← readTriples? r (lengthCount + 4)
  let lengthOf (symbol : Nat) : Nat := ((lengthOrder.zip triples).lookup symbol).getD 0
  let code := PrefixCode.ofLengths ((List.range lengthOrder.length).map lengthOf)
  let count := literalCount + distanceCount
  let (lengths, r) ← readLengths? code count r [] (count + 1)
  let literals := PrefixCode.ofLengths (lengths.take literalCount)
  let distances := PrefixCode.ofLengths (lengths.drop literalCount)
  if code.isUsable && literals.isUsable && distances.isUsable &&
      (lengths[endOfBlock]?.getD 0) != 0 then
    return ((literals, distances), r)
  else none

/-- Reads a stored block. -/
def readStored? (r : BitReader) (data : ByteArray) : Option (ByteArray × BitReader) := do
  let start := r.nextByte.place / 8
  let size ← little? r.file start 2
  let check ← little? r.file (start + 2) 2
  if size + check ≠ blockSize then none
  let block ← slice? r.file (start + 4) size
  return (data ++ block, { r with place := 8 * (start + 4 + size) })

/-- Reads blocks until the last one.  A block takes at least three bits. -/
def readBlocks? (r : BitReader) (data : ByteArray) : Nat → Option (ByteArray × BitReader)
  | 0 => none
  | fuel + 1 => do
    let (last, r) ← r.bit?
    let (kind, r) ← r.bits? 2
    let (data, r) ← match kind with
      | 0 => readStored? r data
      | 1 => readSymbols? fixedCodes.1 fixedCodes.2 r data (8 * r.file.size + 1)
      | 2 => do
        let ((literals, distances), r) ← readCodes? r
        readSymbols? literals distances r data (8 * r.file.size + 1)
      | _ => none
    if last = 1 then return (data, r) else readBlocks? r data fuel

/-- The data in a container.  The sum at its end must be there; whether it is right is not looked at. -/
def read? (file : ByteArray) : Option ByteArray := do
  let method ← byte? file 0
  let header ← big? file 0 2
  if method % 16 ≠ 8 ∨ 7 < method / 16 ∨ header % 31 ≠ 0 ∨ header / 32 % 2 = 1 then none
  let (data, r) ← readBlocks? ⟨file, 16⟩ .empty (8 * file.size + 1)
  let _ ← slice? file (r.nextByte.place / 8) 4
  return data

end FrameDetect.Image.Deflate
