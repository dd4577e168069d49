/-!
# Numbers in files

Numbers as bytes, in either order, and files as bytes of which some may be missing.
-/

namespace FrameDetect.Image

/-- Adds bytes at the end. -/
def push (bytes : ByteArray) (more : List UInt8) : ByteArray := more.foldl ByteArray.push bytes

/-- The given bytes. -/
def bytesOf (bytes : List UInt8) : ByteArray := push .empty bytes

/-- The `count` bytes of a number, the least significant first. -/
def littleEndian : Nat → Nat → List UInt8
  | 0, _ => []
  | count + 1, n => UInt8.ofNat n :: littleEndian count (n / 256)

/-- The `count` bytes of a number, the most significant first. -/
def bigEndian (count n : Nat) : List UInt8 := (littleEndian count n).reverse

/-- Some of the bytes of a file, unless any of them is missing. -/
def slice? (file : ByteArray) (start count : Nat) : Option ByteArray :=
  if start + count ≤ file.size then some (file.extract start (start + count)) else none

/-- The number in `count` bytes, the most significant first. -/
def big? (file : ByteArray) (start count : Nat) : Option Nat :=
  (slice? file start count).map fun bytes => bytes.foldl (fun n b => 256 * n + b.toNat) 0

/-- The number in `count` bytes, the least significant first. -/
def little? (file : ByteArray) (start count : Nat) : Option Nat :=
  (slice? file start count).map fun bytes =>
    bytes.toList.foldr (fun b n => b.toNat + 256 * n) 0

/-- The number in one byte. -/
def byte? (file : ByteArray) (start : Nat) : Option Nat := file[start]?.map UInt8.toNat

/-- Whether bytes stand in a file at a place. -/
def holds (file : ByteArray) (start : Nat) (bytes : List UInt8) : Bool :=
  (slice? file start bytes.length).any fun found => found.toList == bytes

/-- The bytes of an ASCII text. -/
def ascii (text : String) : List UInt8 := text.toUTF8.toList

end FrameDetect.Image
