import FrameDetect.Image.Png

/-!
# Chunks of portable network graphics

The header of a picture and the chunks that tell how its pixels are to be read.
-/

namespace FrameDetect.Image.Png

/-- What the samples of a pixel are. -/
inductive Model where
  | grey
  | colour
  /-- One sample, the number of a colour in a palette. -/
  | indexed
  | greyAlpha
  | colourAlpha
deriving Repr, DecidableEq

/-- The model of a number in the header. -/
def Model.ofNumber? : Nat → Option Model
  | 0 => some .grey
  | 2 => some .colour
  | 3 => some .indexed
  | 4 => some .greyAlpha
  | 6 => some .colourAlpha
  | _ => none

/-- The number of samples of a pixel. -/
def Model.samples : Model → Nat
  | .grey | .indexed => 1
  | .greyAlpha => 2
  | .colour => 3
  | .colourAlpha => 4

/-- The numbers of bits that a sample may have. -/
def Model.depths : Model → List Nat
  | .grey => [1, 2, 4, 8, 16]
  | .indexed => [1, 2, 4, 8]
  | .greyAlpha | .colour | .colourAlpha => [8, 16]

/-- The size of a picture and how its pixels are written. -/
structure Header where
  width : Nat
  height : Nat
  depth : Nat
  model : Model
  /-- Whether the pixels come in seven passes. -/
  interlaced : Bool
deriving Repr, DecidableEq

/-- The header in the data of a chunk. -/
def Header.ofBytes? (data : ByteArray) : Option Header := do
  let width ← big? data 0 4
  let height ← big? data 4 4
  let depth ← byte? data 8
  let model ← Model.ofNumber? (← byte? data 9)
  let interlace ← byte? data 12
  if data.size = 13 ∧ 0 < width ∧ 0 < height ∧ model.depths.contains depth ∧
      byte? data 10 = some 0 ∧ byte? data 11 = some 0 ∧ interlace ≤ 1 then
    some ⟨width, height, depth, model, interlace = 1⟩
  else none

/-- The number of bits of a pixel. -/
def Header.pixelBits (h : Header) : Nat := h.depth * h.model.samples

/-- The number of bytes of `width` pixels. -/
def Header.rowBytes (h : Header) (width : Nat) : Nat := (width * h.pixelBits + 7) / 8

/-- What the chunks of a picture say, with the compressed lines so far. -/
structure Contents where
  header : Header
  palette : Option ByteArray
  transparency : Option ByteArray
  data : Option ByteArray

/-- Takes a chunk in.  Chunks that only add to a picture may be unknown or broken; of the others there is
one of each, and the palette precedes the data. -/
def Contents.add? (c : Contents) (name : List UInt8) (data : ByteArray) (intact : Bool) :
    Option Contents :=
  let isAncillary := name.head?.any fun b => 0x60 < b
  if name = ascii "tRNS" then
    if !intact then some c
    else match c.header.model with
      | .greyAlpha | .colourAlpha => none
      | _ => if c.transparency.isSome then none else some { c with transparency := some data }
  else if isAncillary then some c
  else if !intact then none
  else if name = ascii "PLTE" then
    if c.palette.isSome then none else some { c with palette := some data }
  else if name = ascii "IDAT" then
    some { c with data := some (c.data.getD .empty ++ data) }
  else none

/-- Takes chunks in from a place on, until something else than data follows data.  A chunk takes at least
twelve bytes. -/
def Contents.read? (c : Contents) (file : ByteArray) (start : Nat) : Nat → Option Contents
  | 0 => none
  | fuel + 1 => do
    let size ← big? file start 4
    let name ← slice? file (start + 4) 4
    if c.data.isSome && name.toList != ascii "IDAT" then return c
    else
      let body ← slice? file (start + 4) (size + 4)
      let check ← big? file (start + 8 + size) 4
      let intact := (cyclicChecksum body).toNat = check
      let c ← c.add? name.toList (body.extract 4 body.size) intact
      c.read? file (start + 12 + size) fuel

/-- The chunks of a file, of which the header comes first. -/
def Contents.ofFile? (file : ByteArray) : Option Contents := do
  if !holds file 0 (signature ++ bigEndian 4 13 ++ ascii "IHDR") then none
  let body ← slice? file 12 17
  if some (cyclicChecksum body).toNat ≠ big? file 29 4 then none
  let header ← Header.ofBytes? (body.extract 4 body.size)
  Contents.read? ⟨header, none, none, none⟩ file 33 (file.size + 1)

end FrameDetect.Image.Png
