import FrameDetect.Image.Bytes
import FrameDetect.Image.Raster

/-!
# Portable maps

Pictures with a header in words and samples as numbers: in words too, or as bytes.  A picture is written
as the most general kind of map, with four samples for each pixel.
-/

namespace FrameDetect.Image.Portable

/-- The file of a picture. -/
def encode (r : Raster) : ByteArray :=
  let header :=
    s!"P7\nWIDTH {r.width}\nHEIGHT {r.height}\nDEPTH 4\nMAXVAL 255\nTUPLTYPE RGB_ALPHA\nENDHDR\n"
  r.toList.foldl (fun bytes p => push bytes p.toList) header.toUTF8

/-- How the samples of a map are written. -/
structure Layout where
  width : Nat
  height : Nat
  /-- The number of samples of a pixel. -/
  depth : Nat
  /-- The greatest sample. -/
  greatest : Nat
  /-- Whether samples are words. -/
  inWords : Bool
  /-- Whether samples are bits, of which those that are set are black. -/
  inBits : Bool
  start : Nat
deriving Repr, DecidableEq

/-- Whether a byte parts words. -/
def isBlankByte (b : UInt8) : Bool := [9, 10, 11, 12, 13, 32].contains b

/-- The place of the next word, past blanks and comments. -/
def skipBlanks (file : ByteArray) (inComment : Bool) (start : Nat) : Nat → Nat
  | 0 => start
  | fuel + 1 =>
    match file[start]? with
    | none => start
    | some b =>
      if inComment then skipBlanks file (b != 10 && b != 13) (start + 1) fuel
      else if b = 0x23 then skipBlanks file true (start + 1) fuel
      else if isBlankByte b then skipBlanks file false (start + 1) fuel
      else start

/-- The bytes from a place on that part no words. -/
def wordFrom (file : ByteArray) (start : Nat) : Nat → List UInt8
  | 0 => []
  | fuel + 1 =>
    match file[start]? with
    | some b => if isBlankByte b then [] else b :: wordFrom file (start + 1) fuel
    | none => []

/-- The next word and the place after it. -/
def word (file : ByteArray) (start : Nat) : List UInt8 × Nat :=
  let start := skipBlanks file false start file.size
  let word := wordFrom file start file.size
  (word, start + word.length)

/-- The number that a word is. -/
def number? (word : List UInt8) : Option Nat :=
  if word.isEmpty then none
  else word.foldlM (fun n b => if 48 ≤ b ∧ b ≤ 57 then some (10 * n + (b.toNat - 48)) else none) 0

/-- The next `count` numbers and the place after them. -/
def numbers? (file : ByteArray) (start : Nat) : Nat → Option (List Nat × Nat)
  | 0 => some ([], start)
  | count + 1 => do
    let (word, start) := word file start
    let n ← number? word
    let (rest, start) ← numbers? file start count
    return (n :: rest, start)

/-- The layout of a map of a simple kind: size and, unless samples are bits, the greatest one. -/
def simpleLayout? (file : ByteArray) (depth : Nat) (inWords inBits : Bool) : Option Layout := do
  let (numbers, start) ← numbers? file 2 (if inBits then 2 else 3)
  match numbers with
  | [width, height] => return ⟨width, height, depth, 1, inWords, inBits, start + 1⟩
  | [width, height, greatest] => return ⟨width, height, depth, greatest, inWords, inBits, start + 1⟩
  | _ => none

/-- Reads the fields of a general map until they end, with their names and values, and the place after
them. -/
def fields? (file : ByteArray) (start : Nat) : Nat → Option (List (List UInt8 × List UInt8) × Nat)
  | 0 => none
  | fuel + 1 => do
    let (name, start) := word file start
    if name.isEmpty then none
    else if name = ascii "ENDHDR" then return ([], start + 1)
    else
      let (value, start) := word file start
      let (rest, start) ← fields? file start fuel
      return ((name, value) :: rest, start)

/-- The layout of a general map. -/
def generalLayout? (file : ByteArray) : Option Layout := do
  let (fields, start) ← fields? file 2 file.size
  let field? (name : String) : Option Nat := (fields.lookup (ascii name)).bind number?
  return ⟨← field? "WIDTH", ← field? "HEIGHT", ← field? "DEPTH", ← field? "MAXVAL", false, false, start⟩

/-- The layout of a map. -/
def layout? (file : ByteArray) : Option Layout := do
  if byte? file 0 ≠ some 80 then none
  let layout ← match (← byte? file 1) - 48 with
    | 1 => simpleLayout? file 1 true true
    | 2 => simpleLayout? file 1 true false
    | 3 => simpleLayout? file 3 true false
    | 4 => simpleLayout? file 1 false true
    | 5 => simpleLayout? file 1 false false
    | 6 => simpleLayout? file 3 false false
    | 7 => generalLayout? file
    | _ => none
  if 0 < layout.width ∧ 0 < layout.height ∧ 1 ≤ layout.depth ∧ layout.depth ≤ 4 ∧
      0 < layout.greatest ∧ layout.greatest ≤ 65535 then some layout else none

/-- The digits of a map of bits in words, which need no blanks between them. -/
def bitDigits? (file : ByteArray) (start : Nat) : Option (List Nat) :=
  ((file.extract start file.size).toList.filter fun b => !isBlankByte b).mapM fun b =>
    if b = 48 then some 0 else if b = 49 then some 1 else none

/-- The samples of a map, row by row; `none` if any is missing. -/
def samples? (file : ByteArray) (l : Layout) : Option (Array Nat) :=
  let count := l.width * l.height * l.depth
  if l.inWords ∧ l.inBits then
    (bitDigits? file l.start).bind fun bits =>
      if bits.length < count then none else some (bits.take count).toArray
  else if l.inWords then
    if file.size < count then none else (numbers? file l.start count).map fun (samples, _) => samples.toArray
  else if l.inBits then
    let row := (l.width + 7) / 8
    (slice? file l.start (row * l.height)).map fun data =>
      ((List.range count).map fun i =>
        let (x, y) := (i % l.width, i / l.width)
        (byte? data (row * y + x / 8)).getD 0 >>> (7 - x % 8) % 2).toArray
  else
    let size := if l.greatest < 256 then 1 else 2
    (slice? file l.start (size * count)).map fun data =>
      ((List.range count).map fun i => (big? data (size * i) size).getD 0).toArray

/-- A sample in eight bits, rounded. -/
def eightBits (l : Layout) (value : Nat) : UInt8 :=
  if l.inBits then (if value = 0 then 255 else 0)
  else UInt8.ofNat ((2 * 255 * value + l.greatest) / (2 * l.greatest))

/-- The picture in a file. -/
def read? (file : ByteArray) : Option Raster := do
  let l ← layout? file
  let samples ← samples? file l
  if samples.any (l.greatest < ·) then none
  let part (i : Nat) : UInt8 := eightBits l (samples[i]?.getD 0)
  return .ofFn l.width l.height fun x y =>
    let start := (y * l.width + x) * l.depth
    match l.depth with
    | 1 => .grey (part start)
    | 2 => { Pixel.grey (part start) with alpha := part (start + 1) }
    | 3 => .solid (part start) (part (start + 1)) (part (start + 2))
    | _ => ⟨part start, part (start + 1), part (start + 2), part (start + 3)⟩

end FrameDetect.Image.Portable
