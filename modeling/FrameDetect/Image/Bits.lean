/-!
# Bits and codes

Bits of a file, the least significant of a byte first, and symbols that are written in few bits or many.
The codes of symbols follow from their lengths: shorter ones come first, and those of one length in the
order of their symbols.
-/

namespace FrameDetect.Image

/-- A place in a file, counted in bits. -/
structure BitReader where
  file : ByteArray
  place : Nat

namespace BitReader

/-- The next bit. -/
def bit? (r : BitReader) : Option (Nat × BitReader) :=
  r.file[r.place / 8]?.map fun byte =>
    ((byte.toNat >>> (r.place % 8)) % 2, { r with place := r.place + 1 })

/-- The number in the next `count` bits, the least significant first. -/
def bits? (r : BitReader) : Nat → Option (Nat × BitReader)
  | 0 => some (0, r)
  | count + 1 => do
    let (low, r) ← r.bit?
    let (high, r) ← r.bits? count
    return (low + 2 * high, r)

/-- Goes on to the next byte. -/
def nextByte (r : BitReader) : BitReader := { r with place := (r.place + 7) / 8 * 8 }

end BitReader

/-- Bytes with the bits of a byte that is not full. -/
structure BitWriter where
  bytes : ByteArray
  /-- The number that the bits make, and how many there are. -/
  part : Nat
  size : Nat

namespace BitWriter

/-- No bits. -/
def empty : BitWriter := ⟨.empty, 0, 0⟩

/-- Takes full bytes out of a number of bits. -/
def settle (w : BitWriter) : Nat → BitWriter
  | 0 => w
  | count + 1 =>
    if w.size < 8 then w
    else settle ⟨w.bytes.push (UInt8.ofNat w.part), w.part / 256, w.size - 8⟩ count

/-- Adds `count` bits of a number, the least significant first. -/
def add (w : BitWriter) (count n : Nat) : BitWriter :=
  settle { w with part := w.part + (n % (1 <<< count)) <<< w.size, size := w.size + count } count

/-- All bytes; the last one is filled with zeros. -/
def toBytes (w : BitWriter) : ByteArray :=
  if w.size = 0 then w.bytes else w.bytes.push (UInt8.ofNat w.part)

end BitWriter

/-- The greatest length of a code. -/
def longestCode : Nat := 15

/-- The number of codes of each length from one on, and the symbols in the order of their codes. -/
structure PrefixCode where
  counts : List Nat
  symbols : Array Nat
deriving Repr, DecidableEq

namespace PrefixCode

/-- The symbols with the given length, in order. -/
def symbolsOf (lengths : List Nat) (length : Nat) : List Nat :=
  (lengths.zipIdx.filter fun (l, _) => l = length).map (·.2)

/-- The number of codes of the greatest length that are left after those of the given counts; none if
there are too many. -/
def spare? (counts : List Nat) : Option Nat :=
  counts.foldlM (fun left count => if count ≤ 2 * left then some (2 * left - count) else none) 1

/-- The code with the given lengths; length zero is that of symbols that have no code. -/
def ofLengths (lengths : List Nat) : PrefixCode :=
  let groups := (List.range longestCode).map fun i => symbolsOf lengths (i + 1)
  ⟨groups.map List.length, groups.flatten.toArray⟩

/-- Whether each sequence of bits starts with a code, or at most one symbol has a code. -/
def isUsable (code : PrefixCode) : Bool :=
  match spare? code.counts with
  | some left => left = 0 || code.symbols.size ≤ 1
  | none => false

/-- Reads a symbol bit by bit, given the codes of the lengths so far: the number that the bits make, the
first code of the next length, and how many symbols came before. -/
def readFrom? (symbols : Array Nat) (r : BitReader) (code first before : Nat) :
    List Nat → Option (Nat × BitReader)
  | [] => none
  | count :: rest => do
    let (bit, r) ← r.bit?
    let code := 2 * code + bit
    let first := 2 * first
    if code < first + count then (symbols[before + (code - first)]?).map fun symbol => (symbol, r)
    else readFrom? symbols r code (first + count) (before + count) rest

/-- Reads a symbol. -/
def read? (code : PrefixCode) (r : BitReader) : Option (Nat × BitReader) :=
  readFrom? code.symbols r 0 0 0 code.counts

end PrefixCode

end FrameDetect.Image
