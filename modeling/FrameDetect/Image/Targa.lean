import FrameDetect.Image.Bytes
import FrameDetect.Image.Raster

/-!
# Targa pictures

Pictures with a short header, whose pixels are stored as they are, as numbers in a palette, or with runs
of one pixel taken together.
-/

namespace FrameDetect.Image.Targa

/-- The greatest width and height. -/
def greatestSize : Nat := 65535

/-- The greatest length of a run of one pixel. -/
def longestRun : Nat := 128

/-- The bytes of a run of one pixel. -/
def runBytes (p : Pixel) (run : Nat) : List UInt8 :=
  if run = 0 then [] else [UInt8.ofNat (127 + run), p.blue, p.green, p.red, p.alpha]

/-- The bytes of pixels in runs, given the one before them and for how long it has been repeated. -/
def pixelBytes (bytes : ByteArray) (before : Pixel) (run : Nat) : List Pixel → ByteArray
  | [] => push bytes (runBytes before run)
  | p :: rest =>
    if p = before ∧ run < longestRun then pixelBytes bytes before (run + 1) rest
    else pixelBytes (push bytes (runBytes before run)) p 1 rest

/-- The file of a picture with the first row first, unless it is too large. -/
def encode? (r : Raster) : Option ByteArray :=
  if greatestSize < r.width ∨ greatestSize < r.height then none
  else
    let header := [0, 0, 10, 0, 0, 0, 0, 0, 0, 0, 0, 0] ++ littleEndian 2 r.width ++
      littleEndian 2 r.height ++ [32, 0x28]
    some (pixelBytes (bytesOf header) .clear 0 r.toList)

/-- How the pixels of a picture are stored. -/
structure Layout where
  width : Nat
  height : Nat
  /-- The number of bytes of a pixel. -/
  size : Nat
  /-- What a pixel is: a number in a palette, a colour, or a grey. -/
  kind : Nat
  inRuns : Bool
  /-- Whether the first row comes first, and whether the last column does. -/
  fromTop : Bool
  fromRight : Bool
  /-- Where the palette starts, the number of its first colour, and the number of bytes of a colour. -/
  palette : Nat
  paletteFirst : Nat
  paletteStep : Nat
  start : Nat
deriving Repr, DecidableEq

/-- The layout of a picture. -/
def layout? (file : ByteArray) : Option Layout := do
  let note ← byte? file 0
  let kind ← byte? file 2
  let paletteCount ← little? file 5 2
  let paletteStep := (← byte? file 7) / 8
  let bits ← byte? file 16
  let features ← byte? file 17
  let hasPalette := (← byte? file 1) = 1
  let layout : Layout := {
    width := ← little? file 12 2, height := ← little? file 14 2, size := bits / 8
    kind := kind % 8, inRuns := 8 ≤ kind
    fromTop := features / 32 % 2 = 1, fromRight := features / 16 % 2 = 1
    palette := 18 + note, paletteFirst := ← little? file 3 2, paletteStep
    start := 18 + note + (if hasPalette then paletteCount * paletteStep else 0) }
  let sizes := match layout.kind with
    | 1 => if hasPalette then [1, 2] else []
    | 2 => [2, 3, 4]
    | 3 => [1, 2]
    | _ => []
  if 0 < layout.width ∧ 0 < layout.height ∧ sizes.contains layout.size ∧ bits % 8 = 0 then some layout
  else none

/-- The bytes of pixels in runs, from a place on, until there are `count` bytes. -/
def unpack? (file : ByteArray) (size count : Nat) (data : ByteArray) (start : Nat) :
    Nat → Option ByteArray
  | 0 => none
  | fuel + 1 => do
    if count ≤ data.size then return data
    else
      let head ← byte? file start
      if head < 128 then
        let pixels ← slice? file (start + 1) ((head + 1) * size)
        unpack? file size count (data ++ pixels) (start + 1 + pixels.size) fuel
      else
        let pixel ← slice? file (start + 1) size
        let data := (List.range (head - 127)).foldl (fun data _ => data ++ pixel) data
        unpack? file size count data (start + 1 + size) fuel

/-- A part of five bits in eight. -/
def spread (n : Nat) : UInt8 := UInt8.ofNat (n % 32 * 8 + n % 32 / 4)

/-- The colour in some bytes: parts from blue on, or three parts in one short word. -/
def colour? (data : ByteArray) (start size : Nat) : Option Pixel := do
  let part (k : Nat) : Option UInt8 := data[start + k]?
  match size with
  | 2 =>
    let word ← little? data start 2
    return .solid (spread (word / 1024)) (spread (word / 32)) (spread word)
  | 3 => return .solid (← part 2) (← part 1) (← part 0)
  | 4 => return ⟨← part 2, ← part 1, ← part 0, ← part 3⟩
  | _ => none

/-- The pixel with a number. -/
def Layout.pixel? (l : Layout) (file data : ByteArray) (i : Nat) : Option Pixel := do
  let start := i * l.size
  match l.kind with
  | 1 =>
    let index ← little? data start l.size
    if index < l.paletteFirst then none
    else colour? file (l.palette + (index - l.paletteFirst) * l.paletteStep) l.paletteStep
  | 2 => colour? data start l.size
  | _ =>
    let level ← data[start]?
    if l.size = 2 then return { Pixel.grey level with alpha := ← data[start + 1]? }
    else return .grey level

/-- The picture in a file. -/
def read? (file : ByteArray) : Option Raster := do
  let l ← layout? file
  let count := l.width * l.height * l.size
  let data ← if l.inRuns then unpack? file l.size count .empty l.start (file.size + 1)
    else slice? file l.start count
  return .ofFn l.width l.height fun x y =>
    let row := if l.fromTop then y else l.height - 1 - y
    let column := if l.fromRight then l.width - 1 - x else x
    (l.pixel? file data (row * l.width + column)).getD .clear

end FrameDetect.Image.Targa
