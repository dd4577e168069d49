import FrameDetect.Image.Bits
import FrameDetect.Image.Bytes
import FrameDetect.Image.Raster

/-!
# Pictures with a small palette

Pixels are numbers in a palette, and one of the numbers may stand for what shows everything behind it.
The numbers are written as codes for sequences that were seen before; the codes grow longer as more
sequences are seen, until a code clears them.
-/

namespace FrameDetect.Image.Gif

/-! ## Writing -/

/-- The bytes that a picture starts with, of either version. -/
def signature : List UInt8 := ascii "GIF89a"
def oldSignature : List UInt8 := ascii "GIF87a"

/-- The greatest width and height. -/
def greatestSize : Nat := 65535

/-- The number of bits of a number in a written palette. -/
def paletteBits : Nat := 7

/-- The number of pixels after which sequences are cleared; until then every code fits in a byte. -/
def clearEvery : Nat := 100

/-- The codes of numbers: each stands for itself, and a code at regular places clears all sequences. -/
def codes (numbers : List Nat) : List Nat :=
  let clear := 1 <<< paletteBits
  (numbers.zipIdx.flatMap fun (n, i) => if i % clearEvery = 0 then [clear, n] else [n]) ++ [clear + 1]

/-- Bytes in blocks with their sizes, after those in `done`; a block of size zero is the last. -/
def blocks (done data : ByteArray) (start : Nat) : Nat → ByteArray
  | 0 => done.push 0
  | left + 1 =>
    let block := data.extract start (start + 255)
    blocks (done.push (UInt8.ofNat block.size) ++ block) data (start + 255) left

/-- The file of a picture, unless it is too large or has too many colours. -/
def encode? (r : Raster) : Option ByteArray :=
  let pixels := r.toList
  let palette := pixels.eraseDups
  let colours := 1 <<< paletteBits
  if greatestSize < r.width ∨ greatestSize < r.height ∨ colours < palette.length then none
  else
    let clear? := palette.idxOf? .clear
    let size := littleEndian 2 r.width ++ littleEndian 2 r.height
    let triples := palette.flatMap fun p => [p.red, p.green, p.blue]
    let header := signature ++ size ++ [UInt8.ofNat (0x80 + paletteBits - 1), 0, 0] ++ triples ++
      List.replicate (3 * colours - triples.length) 0 ++
      [0x21, 0xF9, 4, if clear?.isSome then 1 else 0, 0, 0, UInt8.ofNat (clear?.getD 0), 0] ++
      [0x2C, 0, 0, 0, 0] ++ size ++ [0, UInt8.ofNat paletteBits]
    let data := bytesOf ((codes (pixels.map palette.idxOf)).map UInt8.ofNat)
    some ((blocks (bytesOf header) data 0 ((data.size + 254) / 255)).push 0x3B)

/-! ## Reading codes -/

/-- The greatest number of sequences. -/
def greatestTable : Nat := 4096

/-- What is known while codes are read: the sequences, the last of them that was read, and what all of
them make. -/
structure Reading where
  table : Array ByteArray
  bits : Nat
  before : Option ByteArray
  data : ByteArray

/-- The sequences of one number each; the two codes after them have none. -/
def Reading.clear (least : Nat) (data : ByteArray) : Reading :=
  let single := (List.range (1 <<< least)).map fun n => bytesOf [UInt8.ofNat n]
  ⟨(single ++ List.replicate 2 ByteArray.empty).toArray, least + 1, none, data⟩

/-- Adds the sequence of a code.  The sequence before it, with the first number of this one, is a new
sequence, and may be the one that the code stands for. -/
def Reading.add? (s : Reading) (code : Nat) : Option Reading := do
  let longer (before found : ByteArray) : ByteArray := before ++ found.extract 0 1
  let found ← match s.table[code]?, s.before with
    | some found, _ => some found
    | none, some before => if code = s.table.size then some (longer before before) else none
    | none, none => none
  let table := match s.before with
    | some before => if s.table.size < greatestTable then s.table.push (longer before found) else s.table
    | none => s.table
  let bits := if table.size = 1 <<< s.bits ∧ table.size < greatestTable then s.bits + 1 else s.bits
  return ⟨table, bits, some found, s.data ++ found⟩

/-- Reads codes until there are `count` numbers.  A code takes at least a bit. -/
def Reading.run? (least count : Nat) (s : Reading) (r : BitReader) : Nat → Option ByteArray
  | 0 => none
  | fuel + 1 => do
    if count ≤ s.data.size then return s.data
    else
      let (code, r) ← r.bits? s.bits
      if code = 1 <<< least then run? least count (.clear least s.data) r fuel
      else if code = 1 <<< least + 1 then none
      else run? least count (← s.add? code) r fuel

/-! ## Reading pictures -/

/-- The bytes of blocks, after those in `done`, and the place after them. -/
def readBlocks? (file done : ByteArray) (start : Nat) : Nat → Option (ByteArray × Nat)
  | 0 => none
  | fuel + 1 => do
    let size ← byte? file start
    if size = 0 then return (done, start + 1)
    else readBlocks? file (done ++ (← slice? file (start + 1) size)) (start + 1 + size) fuel

/-- A palette with the given features, and the place after it. -/
def palette? (file : ByteArray) (features start : Nat) : Option (Option ByteArray × Nat) :=
  if features < 128 then some (none, start)
  else
    let size := 3 <<< (features % 8 + 1)
    (slice? file start size).map fun palette => (some palette, start + size)

/-- Where a row of a picture is stored: every eighth row first, then those between. -/
def woven (height y : Nat) : Nat :=
  if y % 8 = 0 then y / 8
  else if y % 8 = 4 then (height + 7) / 8 + y / 8
  else if y % 4 = 2 then (height + 3) / 4 + y / 4
  else (height + 1) / 2 + y / 2

/-- The part of a picture that is described at a place, on a clear one of the given size. -/
def part? (file : ByteArray) (width height : Nat) (common : Option ByteArray) (clear? : Option Nat)
    (start : Nat) : Option Raster := do
  let left ← little? file start 2
  let top ← little? file (start + 2) 2
  let columns ← little? file (start + 4) 2
  let rows ← little? file (start + 6) 2
  let features ← byte? file (start + 8)
  let (own, start) ← palette? file features (start + 9)
  let palette ← own.or common
  let least ← byte? file start
  if least < 1 ∨ 11 < least then none
  let (data, _) ← readBlocks? file .empty (start + 1) file.size
  let numbers ← Reading.run? least (columns * rows) (.clear least .empty) ⟨data, 0⟩
    (8 * data.size + 1)
  return .ofFn width height fun x y =>
    if x < left ∨ y < top ∨ left + columns ≤ x ∨ top + rows ≤ y then .clear
    else
      let row := if features / 64 % 2 = 1 then woven rows (y - top) else y - top
      let n := (byte? numbers (row * columns + (x - left))).getD 0
      let colour (k : Nat) : UInt8 := palette[3 * n + k]?.getD 0
      ⟨colour 0, colour 1, colour 2, if clear? = some n then 0 else 255⟩

/-- Goes on to the first part of a picture.  What comes before it may tell which number is clear. -/
def find? (file : ByteArray) (width height : Nat) (common : Option ByteArray) (clear? : Option Nat)
    (start : Nat) : Nat → Option Raster
  | 0 => none
  | fuel + 1 => do
    match ← byte? file start with
    | 0x2C => part? file width height common clear? (start + 1)
    | 0x21 =>
      let (data, stop) ← readBlocks? file .empty (start + 2) file.size
      if byte? file (start + 1) = some 0xF9 then
        let clear? := if (← byte? data 0) % 2 = 1 then byte? data 3 else none
        find? file width height common clear? stop fuel
      else find? file width height common clear? stop fuel
    | _ => none

/-- The picture in a file; of several parts, the first. -/
def read? (file : ByteArray) : Option Raster := do
  if !holds file 0 signature && !holds file 0 oldSignature then none
  let width ← little? file 6 2
  let height ← little? file 8 2
  let (common, start) ← palette? file (← byte? file 10) 13
  if width = 0 ∨ height = 0 then none
  find? file width height common none start file.size

end FrameDetect.Image.Gif
