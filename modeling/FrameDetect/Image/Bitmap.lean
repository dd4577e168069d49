import FrameDetect.Image.Bytes
import FrameDetect.Image.Raster

/-!
# Bitmaps

Pictures whose rows are stored from the last one on, the parts of a pixel from blue to red, and each row
filled up to whole words.
-/

namespace FrameDetect.Image.Bitmap

/-- The bytes that every picture starts with. -/
def signature : List UInt8 := ascii "BM"

/-- The size of the header of the file, and of that of the picture. -/
def fileHeaderSize : Nat := 14
def headerSize : Nat := 108

/-- Where the parts of a pixel are in a word: red, green, blue and alpha. -/
def masks : List Nat := [0x00FF0000, 0x0000FF00, 0x000000FF, 0xFF000000]

/-- The file of a picture, with words for pixels. -/
def encode (r : Raster) : ByteArray :=
  let start := fileHeaderSize + headerSize
  let size := 4 * r.width * r.height
  let word := littleEndian 4
  let header := signature ++ word (start + size) ++ word 0 ++ word start ++
    word headerSize ++ word r.width ++ word r.height ++ littleEndian 2 1 ++ littleEndian 2 32 ++
    word 3 ++ word size ++ word 0 ++ word 0 ++ word 0 ++ word 0 ++ masks.flatMap word ++
    ascii "BGRs" ++ List.replicate 48 0
  r.rows.reverse.foldl
    (fun bytes row => row.foldl (fun bytes p => push bytes [p.blue, p.green, p.red, p.alpha]) bytes)
    (bytesOf header)

/-- How the pixels of a bitmap are stored. -/
structure Layout where
  width : Nat
  height : Nat
  /-- Whether the first row comes first. -/
  fromTop : Bool
  bits : Nat
  masks : List Nat
  /-- Where the palette starts, and the size of its entries. -/
  palette : Nat
  paletteStep : Nat
  start : Nat
deriving Repr, DecidableEq

/-- A number of 32 bits with a sign. -/
def signed (n : Nat) : Int := if n < 2147483648 then n else (n : Int) - 4294967296

/-- The masks of a picture that brings none. -/
def usualMasks (bits : Nat) : List Nat :=
  if bits = 16 then [0x7C00, 0x03E0, 0x001F, 0] else masks.take 3 ++ [0]

/-- The layout of an old bitmap, whose header has short numbers. -/
def oldLayout? (file : ByteArray) (start : Nat) : Option Layout := do
  return {
    width := ← little? file 18 2, height := ← little? file 20 2, fromTop := false
    bits := ← little? file 24 2, masks := masks.take 3 ++ [0]
    palette := 26, paletteStep := 3, start }

/-- The masks of a bitmap, which stand in the header or behind it.  Where the header is too short for it
there is none for alpha. -/
def masks? (file : ByteArray) (size : Nat) : Option (List Nat) :=
  let count := if 56 ≤ size then 4 else 3
  ((List.range count).mapM fun i => little? file (fileHeaderSize + 40 + 4 * i) 4).map fun given =>
    given ++ List.replicate (4 - count) 0

/-- The layout of a bitmap that is not compressed. -/
def newLayout? (file : ByteArray) (start size : Nat) : Option Layout := do
  let height := signed (← little? file 22 4)
  let bits ← little? file 28 2
  let masks ← match ← little? file 30 4 with
    | 0 => some (usualMasks bits)
    | 3 => masks? file size
    | _ => none
  return {
    width := ← little? file 18 4, height := height.natAbs, fromTop := height < 0, bits, masks
    palette := fileHeaderSize + size, paletteStep := 4, start }

/-- The layout of a bitmap. -/
def layout? (file : ByteArray) : Option Layout := do
  if !holds file 0 signature then none
  let start ← little? file 10 4
  let size ← little? file 14 4
  let layout ← if size = 12 then oldLayout? file start
    else if 40 ≤ size then newLayout? file start size
    else none
  if 0 < layout.width ∧ 0 < layout.height ∧ [1, 4, 8, 16, 24, 32].contains layout.bits then
    some layout
  else none

/-- The number of bytes of a row. -/
def Layout.rowBytes (l : Layout) : Nat := (l.width * l.bits + 31) / 32 * 4

/-- The value of the least bit that is set in a number of the given bits. -/
def leastBit (n : Nat) : Nat → Nat
  | 0 => 1
  | bits + 1 => if n % 2 = 1 then 1 else 2 * leastBit (n / 2) bits

/-- The part of a word under a mask, spread over eight bits. -/
def masked (mask word : Nat) : UInt8 :=
  let one := leastBit mask 32
  let greatest := mask / one
  let value := (word &&& mask) / one
  if greatest = 0 then 0 else UInt8.ofNat ((2 * 255 * value + greatest) / (2 * greatest))

/-- The pixel of a word under masks; without a mask for alpha it hides what is behind it. -/
def maskedPixel (masks : List Nat) (word : Nat) : Pixel :=
  match masks with
  | [red, green, blue, alpha] =>
    ⟨masked red word, masked green word, masked blue word,
      if alpha = 0 then 255 else masked alpha word⟩
  | _ => .clear

/-- The pixel in a column of the row that starts at a place. -/
def Layout.pixel? (l : Layout) (file : ByteArray) (row x : Nat) : Option Pixel := do
  match l.bits with
  | 16 => return maskedPixel l.masks (← little? file (row + 2 * x) 2)
  | 32 => return maskedPixel l.masks (← little? file (row + 4 * x) 4)
  | 24 =>
    let part (k : Nat) : Option UInt8 := file[row + 3 * x + k]?
    return .solid (← part 2) (← part 1) (← part 0)
  | bits =>
    let byte ← byte? file (row + x * bits / 8)
    let index := byte >>> (8 - bits - x * bits % 8) % (1 <<< bits)
    let part (k : Nat) : Option UInt8 := file[l.palette + l.paletteStep * index + k]?
    return .solid (← part 2) (← part 1) (← part 0)

/-- The picture in a file. -/
def read? (file : ByteArray) : Option Raster := do
  let l ← layout? file
  if file.size < l.start + l.rowBytes * l.height then none
  return .ofFn l.width l.height fun x y =>
    let row := if l.fromTop then y else l.height - 1 - y
    (l.pixel? file (l.start + l.rowBytes * row) x).getD .clear

end FrameDetect.Image.Bitmap
