import FrameDetect.Image.Bytes
import FrameDetect.Image.Raster

/-!
# Pictures in nested boxes

A file of boxes, each with its size and its name: what the file is, what is known of the picture, and
its pixels.  The pixels are stored as they are; such files are written but not read.
-/

namespace FrameDetect.Image.Avif

/-- A box with its size and its name. -/
def box (name : String) (content : List UInt8) : List UInt8 :=
  bigEndian 4 (8 + content.length) ++ ascii name ++ content

/-- A box that has a version. -/
def versionedBox (name : String) (version : UInt8) (content : List UInt8) : List UInt8 :=
  box name (version :: [0, 0, 0] ++ content)

/-- The kind of file. -/
def brand : List UInt8 := box "ftyp" (ascii "avif" ++ bigEndian 4 0 ++ ascii "avifmif1")

/-- The number of the only item in a file. -/
def item : List UInt8 := bigEndian 2 1

/-- What is known of the picture: its size, the meaning of its colours and the order of their parts. -/
def properties (r : Raster) : List UInt8 :=
  let size := versionedBox "ispe" 0 (bigEndian 4 r.width ++ bigEndian 4 r.height)
  let colours := box "colr"
    (ascii "nclx" ++ bigEndian 2 1 ++ bigEndian 2 13 ++ bigEndian 2 0 ++ [0x80])
  let parts := versionedBox "uncC" 1 (ascii "rgba")
  box "iprp" (box "ipco" (size ++ colours ++ parts) ++
    versionedBox "ipma" 0 (bigEndian 4 1 ++ item ++ [3, 0x01, 0x02, 0x83]))

/-- All that comes before the pixels, given the place where they start. -/
def description (r : Raster) (start : Nat) : List UInt8 :=
  let purpose := versionedBox "hdlr" 0 (bigEndian 4 0 ++ ascii "pict" ++ List.replicate 13 0)
  let place := versionedBox "iloc" 0 ([0x44, 0] ++ bigEndian 2 1 ++ item ++ bigEndian 2 0 ++
    bigEndian 2 1 ++ bigEndian 4 start ++ bigEndian 4 (4 * r.width * r.height))
  let kind := versionedBox "infe" 2 (item ++ bigEndian 2 0 ++ ascii "unci" ++ [0])
  brand ++ versionedBox "meta" 0 (purpose ++ versionedBox "pitm" 0 item ++ place ++
    versionedBox "iinf" 0 (bigEndian 2 1 ++ kind) ++ properties r)

/-- The file of a picture. -/
def encode (r : Raster) : ByteArray :=
  let start := (description r 0).length + 8
  let header := description r start ++ bigEndian 4 (8 + 4 * r.width * r.height) ++ ascii "mdat"
  r.toList.foldl (fun bytes p => push bytes p.toList) (bytesOf header)

end FrameDetect.Image.Avif
