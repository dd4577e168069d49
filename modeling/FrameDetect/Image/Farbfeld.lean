import FrameDetect.Image.Bytes
import FrameDetect.Image.Raster

/-!
# Plain pictures of long samples

Pictures with a short header and sixteen bits for each part of a pixel.  They are read, with their parts
rounded to eight bits, but not written.
-/

namespace FrameDetect.Image.Farbfeld

/-- The bytes that every picture starts with. -/
def signature : List UInt8 := ascii "farbfeld"

/-- The picture in a file. -/
def read? (file : ByteArray) : Option Raster := do
  if !holds file 0 signature then none
  let width ← big? file 8 4
  let height ← big? file 12 4
  let data ← slice? file 16 (8 * width * height)
  let part (i : Nat) : UInt8 := UInt8.ofNat (((big? data (2 * i) 2).getD 0 + 128) / 257)
  return .ofFn width height fun x y =>
    let i := 4 * (y * width + x)
    ⟨part i, part (i + 1), part (i + 2), part (i + 3)⟩

end FrameDetect.Image.Farbfeld
