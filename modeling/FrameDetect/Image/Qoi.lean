import FrameDetect.Image.Bytes
import FrameDetect.Image.Raster

/-!
# Pictures as changes

Each pixel is written by how it differs from the one before it, or as one that was seen before.
-/

namespace FrameDetect.Image.Qoi

/-- The bytes that every picture starts and ends with. -/
def signature : List UInt8 := ascii "qoif"
def ending : List UInt8 := [0, 0, 0, 0, 0, 0, 0, 1]

/-- The pixel before the first one. -/
def firstPixel : Pixel := .solid 0 0 0

/-- The greatest length of a run of one pixel. -/
def longestRun : Nat := 62

/-- The byte of a run of pixels that are as the one before them. -/
def runBytes (run : Nat) : List UInt8 := if run = 0 then [] else [UInt8.ofNat (0xC0 + run - 1)]

/-- The place of a pixel among those that were seen. -/
def Pixel.place (p : Pixel) : Nat :=
  (3 * p.red.toNat + 5 * p.green.toNat + 7 * p.blue.toNat + 11 * p.alpha.toNat) % 64

/-- The bytes of pixels, given those that were seen, the one before them and for how long it has been
repeated. -/
def pixelBytes (bytes : ByteArray) (seen : Array Pixel) (before : Pixel) (run : Nat) :
    List Pixel → ByteArray
  | [] => push bytes (runBytes run)
  | p :: rest =>
    if p = before then
      if run + 1 = longestRun then pixelBytes (push bytes (runBytes longestRun)) seen before 0 rest
      else pixelBytes bytes seen before (run + 1) rest
    else
      let place := Pixel.place p
      let code := if seen[place]? = some p then [UInt8.ofNat place] else 0xFF :: p.toList
      pixelBytes (push bytes (runBytes run ++ code)) (seen.setIfInBounds place p) p 0 rest

/-- The pixels that count as seen before the first one. -/
def noneSeen : Array Pixel := Array.replicate 64 .clear

/-- The file of a picture. -/
def encode (r : Raster) : ByteArray :=
  let header := signature ++ bigEndian 4 r.width ++ bigEndian 4 r.height ++ [4, 0]
  push (pixelBytes (bytesOf header) noneSeen firstPixel 0 r.toList) ending

/-- What is known while pixels are read. -/
structure Reading where
  pixels : Array Pixel
  seen : Array Pixel
  before : Pixel

/-- Adds a pixel. -/
def Reading.add (s : Reading) (p : Pixel) : Reading :=
  ⟨s.pixels.push p, s.seen.setIfInBounds (Pixel.place p) p, p⟩

/-- Adds the last pixel again. -/
def Reading.repeat (s : Reading) : Nat → Reading
  | 0 => s
  | run + 1 => (s.add s.before).repeat run

/-- Adds what the bytes at a place stand for; gives also the place after them. -/
def Reading.step? (s : Reading) (file : ByteArray) (start : Nat) : Option (Reading × Nat) := do
  let byte (k : Nat) : Option UInt8 := file[start + k]?
  let first ← byte 0
  let b := s.before
  if first = 0xFE then
    return (s.add { b with red := ← byte 1, green := ← byte 2, blue := ← byte 3 }, start + 4)
  else if first = 0xFF then
    return (s.add ⟨← byte 1, ← byte 2, ← byte 3, ← byte 4⟩, start + 5)
  else
    let low := first &&& 0x3F
    match first >>> 6 with
    | 0 => return (s.add (s.seen[low.toNat]?.getD .clear), start + 1)
    | 1 =>
      return (s.add { b with
        red := b.red + (low >>> 4) - 2
        green := b.green + ((low >>> 2) &&& 3) - 2
        blue := b.blue + (low &&& 3) - 2 }, start + 1)
    | 2 =>
      let second ← byte 1
      let green := low - 32
      return (s.add { b with
        red := b.red + green + (second >>> 4) - 8
        green := b.green + green
        blue := b.blue + green + (second &&& 0xF) - 8 }, start + 2)
    | _ => return (s.repeat (low.toNat + 1), start + 1)

/-- Reads until there are `count` pixels.  Each step takes at least a byte. -/
def Reading.run? (s : Reading) (file : ByteArray) (count start : Nat) : Nat → Option Reading
  | 0 => none
  | fuel + 1 =>
    if count ≤ s.pixels.size then some s
    else (s.step? file start).bind fun (s, start) => s.run? file count start fuel

/-- The picture in a file. -/
def read? (file : ByteArray) : Option Raster := do
  if !holds file 0 signature then none
  let width ← big? file 4 4
  let height ← big? file 8 4
  let parts ← byte? file 12
  if width = 0 ∨ height = 0 ∨ (parts ≠ 3 ∧ parts ≠ 4) ∨ 1 < (← byte? file 13) then none
  let start : Reading := ⟨#[], noneSeen, firstPixel⟩
  let s ← start.run? file (width * height) 14 (file.size + 1)
  return .ofFn width height fun x y => s.pixels[y * width + x]?.getD .clear

end FrameDetect.Image.Qoi
