import FrameDetect.Image.Png
import FrameDetect.Image.Png.Reader

/-!
# Icons

A list of pictures for one thing, of which this library writes one.  The pictures are portable network
graphics; those of other kinds are not read.
-/

namespace FrameDetect.Image.Icon

/-- The bytes that every list starts with. -/
def signature : List UInt8 := [0, 0, 1, 0]

/-- The greatest width and height, which is written as zero. -/
def greatestSize : Nat := 256

/-- The size of the header and that of the entry of a picture. -/
def headerSize : Nat := 6
def entrySize : Nat := 16

/-- The number of bits of a written pixel. -/
def pixelBits : Nat := 32

/-- The file of a picture, unless it is too large. -/
def encode? (r : Raster) : Option ByteArray :=
  if greatestSize < r.width ∨ greatestSize < r.height then none
  else
    let picture := Png.encode r
    let entry := [UInt8.ofNat r.width, UInt8.ofNat r.height, 0, 0, 0, 0] ++
      littleEndian 2 pixelBits ++ littleEndian 4 picture.size ++
      littleEndian 4 (headerSize + entrySize)
    some (bytesOf (signature ++ [1, 0] ++ entry) ++ picture)

/-- What a list tells of a picture. -/
structure Entry where
  width : Nat
  height : Nat
  bits : Nat
  size : Nat
  start : Nat
deriving Repr, DecidableEq

/-- The entry at a place. -/
def entry? (file : ByteArray) (start : Nat) : Option Entry := do
  let side (n : Nat) : Nat := if n = 0 then greatestSize else n
  return ⟨side (← byte? file start), side (← byte? file (start + 1)), ← little? file (start + 6) 2,
    ← little? file (start + 8) 4, ← little? file (start + 12) 4⟩

/-- Whether an entry tells of a better picture than another one: of more bits, or else a larger one. -/
def Entry.isBetter (e than : Entry) : Bool :=
  than.bits < e.bits || (than.bits = e.bits && than.width * than.height < e.width * e.height)

/-- The best of the pictures in a file. -/
def read? (file : ByteArray) : Option Raster := do
  if !holds file 0 signature then none
  let count ← little? file 4 2
  let entries ← (List.range count).mapM fun i => entry? file (headerSize + entrySize * i)
  let best ← match entries with
    | [] => none
    | e :: rest => some (rest.foldl (fun best e => if e.isBetter best then e else best) e)
  let r ← Png.read? (file.extract best.start file.size)
  if r.width = best.width ∧ r.height = best.height then some r else none

end FrameDetect.Image.Icon
