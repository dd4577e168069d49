import FrameDetect.Image.Deflate
import FrameDetect.Image.Raster

/-!
# Portable network graphics

Pictures in chunks, each with a name and a checksum: a header with the size, and the pixels as compressed
lines.
-/

namespace FrameDetect.Image.Png

/-- The bytes that every picture starts with. -/
def signature : List UInt8 := [0x89, 0x50, 0x4E, 0x47, 0x0D, 0x0A, 0x1A, 0x0A]

/-- A chunk with its length, its name and its checksum. -/
def chunk (name : String) (data : ByteArray) : ByteArray :=
  let body := name.toUTF8 ++ data
  push (bytesOf (bigEndian 4 data.size) ++ body) (bigEndian 4 (cyclicChecksum body).toNat)

/-- The lines of a picture, each after a byte that tells that it is not filtered. -/
def scanlines (r : Raster) : ByteArray :=
  r.rows.foldl (fun bytes row => row.foldl (fun bytes p => push bytes p.toList) (bytes.push 0)) .empty

/-- Size, eight bits for each of four parts of a pixel, and no other features. -/
def header (r : Raster) : ByteArray :=
  bytesOf (bigEndian 4 r.width ++ bigEndian 4 r.height ++ [8, 6, 0, 0, 0])

/-- The file of a picture. -/
def encode (r : Raster) : ByteArray :=
  bytesOf signature ++ chunk "IHDR" (header r) ++ chunk "IDAT" (Deflate.stored (scanlines r)) ++
    chunk "IEND" .empty

end FrameDetect.Image.Png
