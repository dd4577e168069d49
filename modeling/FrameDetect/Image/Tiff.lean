import FrameDetect.Image.Bytes
import FrameDetect.Image.Raster

/-!
# Tagged pictures

Pictures in strips of whole rows, and a directory that tells by numbered tags how they are stored.
Compressed strips are not read.
-/

namespace FrameDetect.Image.Tiff

/-- How a number is written: as a short word, a long word, or a quotient of two long words. -/
inductive Kind where
  | short | long | quotient
deriving Repr, DecidableEq

/-- The number of a kind in a directory. -/
def Kind.code : Kind → Nat
  | .short => 3 | .long => 4 | .quotient => 5

/-- The number of bytes of a value. -/
def Kind.size : Kind → Nat
  | .short => 2 | .long => 4 | .quotient => 8

/-- The bytes of a value; a quotient is one of a whole number and one. -/
def Kind.bytes : Kind → Nat → List UInt8
  | .short, n => littleEndian 2 n
  | .long, n => littleEndian 4 n
  | .quotient, n => littleEndian 4 n ++ littleEndian 4 1

/-- The values of a tag. -/
structure Field where
  tag : Nat
  kind : Kind
  values : List Nat
deriving Repr, DecidableEq

namespace Field

def bytes (f : Field) : List UInt8 := f.values.flatMap f.kind.bytes

/-- Whether the values fit into the directory. -/
def isShort (f : Field) : Bool := f.bytes.length ≤ 4

/-- The entry of a directory, with values that are at a place unless they fit into it. -/
def entry (f : Field) (place : Nat) : List UInt8 :=
  littleEndian 2 f.tag ++ littleEndian 2 f.kind.code ++ littleEndian 4 f.values.length ++
    if f.isShort then f.bytes ++ List.replicate (4 - f.bytes.length) 0 else littleEndian 4 place

/-- The entries of fields, given the place for values that do not fit into the directory. -/
def entries (place : Nat) : List Field → List UInt8
  | [] => []
  | f :: rest => f.entry place ++ entries (if f.isShort then place else place + f.bytes.length) rest

end Field

/-- The bytes that a picture starts with, of which the first two tell the order of bytes in numbers. -/
def littleSignature : List UInt8 := ascii "II*\x00"
def bigSignature : List UInt8 := ascii "MM\x00*"

/-- Where the first strip starts. -/
def dataStart : Nat := 8

/-- The number of bytes that a strip has at least, if there is more than one. -/
def stripSize : Nat := 1000000

/-- The fields of a picture with four parts of eight bits for each pixel. -/
def fields (width height rows : Nat) (places sizes : List Nat) : List Field :=
  [⟨256, .long, [width]⟩, ⟨257, .long, [height]⟩, ⟨258, .short, [8, 8, 8, 8]⟩, ⟨259, .short, [1]⟩,
    ⟨262, .short, [2]⟩, ⟨273, .long, places⟩, ⟨277, .short, [4]⟩, ⟨278, .long, [rows]⟩,
    ⟨279, .long, sizes⟩, ⟨282, .quotient, [1]⟩, ⟨283, .quotient, [1]⟩, ⟨296, .short, [1]⟩,
    ⟨339, .short, [1, 1, 1, 1]⟩]

/-- The file of a picture. -/
def encode (r : Raster) : ByteArray :=
  let rowBytes := 4 * r.width
  let rows := max 1 ((stripSize + rowBytes - 1) / max 1 rowBytes)
  let strips := List.range ((r.height + rows - 1) / rows)
  let places := strips.map fun i => dataStart + i * rows * rowBytes
  let sizes := strips.map fun i => (min r.height ((i + 1) * rows) - i * rows) * rowBytes
  let place := dataStart + r.height * rowBytes
  let fields := fields r.width r.height rows places sizes
  let values := (fields.filter fun f => !f.isShort).flatMap Field.bytes
  let file := r.toList.foldl (fun bytes p => push bytes p.toList)
    (bytesOf (littleSignature ++ littleEndian 4 (place + values.length)))
  push file (values ++ littleEndian 2 fields.length ++ Field.entries place fields ++
    littleEndian 4 0)

/-- A file and the order of bytes in its numbers. -/
structure Source where
  file : ByteArray
  isBig : Bool

namespace Source

/-- The number at a place. -/
def number? (s : Source) (start count : Nat) : Option Nat :=
  if s.isBig then big? s.file start count else little? s.file start count

/-- The values of the entry at a place, with its tag: bytes, short words or long words. -/
def entry? (s : Source) (start : Nat) : Option (Nat × List Nat) := do
  let tag ← s.number? start 2
  let kind ← s.number? (start + 2) 2
  let count ← s.number? (start + 4) 4
  let size := match kind with
    | 1 => 1 | 3 => 2 | 4 => 4 | _ => 0
  if size = 0 then return (tag, [])
  else if s.file.size < count then none
  else
    let place ← if size * count ≤ 4 then some (start + 8) else s.number? (start + 8) 4
    let values ← (List.range count).mapM fun i => s.number? (place + size * i) size
    return (tag, values)

/-- The values of the tags of a picture. -/
def directory? (s : Source) : Option (List (Nat × List Nat)) := do
  let start ← s.number? 4 4
  let count ← s.number? start 2
  (List.range count).mapM fun i => s.entry? (start + 2 + 12 * i)

end Source

/-- The picture in a file: greys or colours with parts of eight bits. -/
def read? (file : ByteArray) : Option Raster := do
  let source : Source ← if holds file 0 littleSignature then some ⟨file, false⟩
    else if holds file 0 bigSignature then some ⟨file, true⟩
    else none
  let tags ← source.directory?
  let value (tag otherwise : Nat) : Nat := ((tags.lookup tag).bind List.head?).getD otherwise
  let width ← (tags.lookup 256).bind List.head?
  let height ← (tags.lookup 257).bind List.head?
  let meaning ← (tags.lookup 262).bind List.head?
  let parts := value 277 1
  let bits := (tags.lookup 258).getD [1]
  let isGrey := meaning ≤ 1 ∧ (parts = 1 ∨ parts = 2)
  if width = 0 ∨ height = 0 ∨ value 259 1 ≠ 1 ∨ value 284 1 ≠ 1 ∨ value 317 1 ≠ 1 ∨
      bits.any (· ≠ 8) ∨ !(isGrey ∨ (meaning = 2 ∧ (parts = 3 ∨ parts = 4))) then none
  let strips ← ((← tags.lookup 273).zip (← tags.lookup 279)).mapM fun (place, size) =>
    slice? file place size
  let data := strips.foldl (· ++ ·) .empty
  if data.size < width * height * parts then none
  let part (i : Nat) : UInt8 := data[i]?.getD 0
  let grey (i : Nat) : UInt8 := if meaning = 0 then 255 - part i else part i
  return .ofFn width height fun x y =>
    let i := (y * width + x) * parts
    match parts with
    | 1 => .grey (grey i)
    | 2 => { Pixel.grey (grey i) with alpha := part (i + 1) }
    | 3 => .solid (part i) (part (i + 1)) (part (i + 2))
    | _ => ⟨part i, part (i + 1), part (i + 2), part (i + 3)⟩

end FrameDetect.Image.Tiff
