import FrameDetect.Image.Bits
import FrameDetect.Image.Bytes
import FrameDetect.Image.Raster

/-!
# Lossless pictures in codes

The parts of a pixel are written one after another, each in a code of its own.  A written picture gives
codes of one length to all bytes.  Pictures that were changed before they were coded, or that refer to
pixels before, are not read.
-/

namespace FrameDetect.Image.Webp

/-- The greatest width and height. -/
def greatestSize : Nat := 16384

/-- The byte that the bits of a picture start with. -/
def signature : Nat := 0x2F

/-- The number of bits for width and height. -/
def sizeBits : Nat := 14

/-- The numbers of symbols of each code: for green and lengths, red, blue, alpha and distances. -/
def alphabets : List Nat := [280, 256, 256, 256, 40]

/-- The order in which the lengths of the codes for lengths are written. -/
def lengthOrder : List Nat := [17, 18, 0, 1, 2, 3, 4, 5, 16, 6, 7, 8, 9, 10, 11, 12, 13, 14, 15]

/-! ## Writing -/

/-- The code of a byte, with its first bit as the least significant one. -/
def reversed (b : UInt8) : Nat :=
  (List.range 8).foldl (fun n i => 2 * n + b.toNat >>> i % 2) 0

/-- Adds a code with eight bits for each byte, and none for what else is in the alphabet.  The lengths
have codes too: of one bit, for the lengths zero and eight. -/
def addCode (w : BitWriter) (alphabet : Nat) : BitWriter :=
  let used := lengthOrder.take 12
  let w := (w.add 1 0).add 4 (used.length - 4)
  let w := used.foldl (fun w l => w.add 3 (if l = 0 ∨ l = 8 then 1 else 0)) w
  (List.range alphabet).foldl (fun w n => w.add 1 (if n < 256 then 1 else 0)) (w.add 1 0)

/-- Adds a code with one symbol, which is zero and takes no bits. -/
def addEmptyCode (w : BitWriter) : BitWriter := w.add 4 1

/-- Adds a pixel. -/
def addPixel (w : BitWriter) (p : Pixel) : BitWriter :=
  [p.green, p.red, p.blue, p.alpha].foldl (fun w b => w.add 8 (reversed b)) w

/-- The file of a picture, unless it is too large. -/
def encode? (r : Raster) : Option ByteArray :=
  if greatestSize < r.width ∨ greatestSize < r.height then none
  else
    let size := (((BitWriter.empty.add 8 signature).add sizeBits (r.width - 1)).add sizeBits
      (r.height - 1)).add 1 1
    let features := (size.add 3 0).add 3 0
    let codes := addEmptyCode ((alphabets.take 4).foldl addCode features)
    let bits := (r.toList.foldl addPixel codes).toBytes
    let padding := List.replicate (bits.size % 2) 0
    let header := ascii "RIFF" ++ littleEndian 4 (12 + bits.size + padding.length) ++
      ascii "WEBPVP8L" ++ littleEndian 4 bits.size
    some (push (bytesOf header ++ bits) padding)

/-! ## Reading -/

/-- Reads a code with one or two symbols. -/
def readSimpleCode? (alphabet : Nat) (r : BitReader) : Option (PrefixCode × BitReader) := do
  let (more, r) ← r.bit?
  let (isLong, r) ← r.bit?
  let (first, r) ← r.bits? (if isLong = 1 then 8 else 1)
  let (second, r) ← if more = 1 then r.bits? 8 else some (first, r)
  let length (n : Nat) : Nat := if n = first ∨ n = second then 1 else 0
  return (.ofLengths ((List.range alphabet).map length), r)

/-- Reads the lengths of the codes for lengths. -/
def readTriples? (r : BitReader) : List Nat → Option (List (Nat × Nat) × BitReader)
  | [] => some ([], r)
  | l :: rest => do
    let (n, r) ← r.bits? 3
    let (lengths, r) ← readTriples? r rest
    return ((l, n) :: lengths, r)

/-- Reads a symbol; if there is only one, it takes no bits. -/
def readSymbol? (code : PrefixCode) (r : BitReader) : Option (Nat × BitReader) :=
  if code.symbols.size = 1 then code.symbols[0]?.map fun n => (n, r) else code.read? r

/-- Reads lengths of codes, the latest first, until there are `count` or as many symbols as told.  Some
symbols repeat the last length that is not zero, or length zero. -/
def readLengths? (code : PrefixCode) (count last : Nat) (r : BitReader) (lengths : List Nat) :
    Nat → Option (List Nat × BitReader)
  | 0 => some (lengths.reverse ++ List.replicate (count - lengths.length) 0, r)
  | left + 1 => do
    if count < lengths.length then none
    else if count = lengths.length then return (lengths.reverse, r)
    else
      let (symbol, r) ← readSymbol? code r
      if symbol < 16 then
        readLengths? code count (if symbol = 0 then last else symbol) r (symbol :: lengths) left
      else
        let (least, extra) := if symbol = 16 then (3, 2) else if symbol = 17 then (3, 3) else (11, 7)
        let (more, r) ← r.bits? extra
        let length := if symbol = 16 then last else 0
        readLengths? code count last r (List.replicate (least + more) length ++ lengths) left

/-- Reads a code. -/
def readCode? (alphabet : Nat) (r : BitReader) : Option (PrefixCode × BitReader) := do
  let (isSimple, r) ← r.bit?
  if isSimple = 1 then readSimpleCode? alphabet r
  else
    let (used, r) ← r.bits? 4
    let (triples, r) ← readTriples? r (lengthOrder.take (used + 4))
    let code := PrefixCode.ofLengths ((List.range 19).map fun l => (triples.lookup l).getD 0)
    let (isLimited, r) ← r.bit?
    let (limit, r) ←
      if isLimited = 1 then do
        let (bits, r) ← r.bits? 3
        let (n, r) ← r.bits? (2 + 2 * bits)
        some (2 + n, r)
      else some (alphabet, r)
    let (lengths, r) ← readLengths? code alphabet 8 r [] limit
    return (.ofLengths lengths, r)

/-- Reads codes for alphabets. -/
def readCodes? (r : BitReader) : List Nat → Option (List PrefixCode × BitReader)
  | [] => some ([], r)
  | alphabet :: rest => do
    let (code, r) ← readCode? alphabet r
    let (codes, r) ← readCodes? r rest
    return (code :: codes, r)

/-- Reads `count` pixels. -/
def readPixels? (green red blue alpha : PrefixCode) (r : BitReader) (pixels : Array Pixel) :
    Nat → Option (Array Pixel)
  | 0 => some pixels
  | count + 1 => do
    let (g, r) ← readSymbol? green r
    if 256 ≤ g then none
    let (rd, r) ← readSymbol? red r
    let (b, r) ← readSymbol? blue r
    let (a, r) ← readSymbol? alpha r
    let p : Pixel := ⟨UInt8.ofNat rd, UInt8.ofNat g, UInt8.ofNat b, UInt8.ofNat a⟩
    readPixels? green red blue alpha r (pixels.push p) count

/-- The picture in a file. -/
def read? (file : ByteArray) : Option Raster := do
  if !holds file 0 (ascii "RIFF") || !holds file 8 (ascii "WEBPVP8L") then none
  let (first, r) ← (BitReader.mk file 160).bits? 8
  let (width, r) ← r.bits? sizeBits
  let (height, r) ← r.bits? sizeBits
  let (hasAlpha, r) ← r.bit?
  let (features, r) ← r.bits? 6
  if first ≠ signature ∨ features ≠ 0 then none
  let (codes, r) ← readCodes? r alphabets
  let pixels ← match codes with
    | [green, red, blue, alpha, _] =>
      readPixels? green red blue alpha r #[] ((width + 1) * (height + 1))
    | _ => none
  return .ofFn (width + 1) (height + 1) fun x y =>
    let p := pixels[y * (width + 1) + x]?.getD .clear
    if hasAlpha = 1 then p else { p with alpha := 255 }

end FrameDetect.Image.Webp
