import FrameDetect.Image.Png.Header

/-!
# Reading portable network graphics

The lines of a picture are filtered: each byte is written as its difference from what the bytes around it
let expect.  An interlaced picture has its pixels in passes, each a picture of its own.
-/

namespace FrameDetect.Image.Png

/-! ## Lines -/

/-- The one of three bytes that is nearest to where a plane through them leads. -/
def predict (left above corner : Nat) : Nat :=
  let distance (n : Nat) : Nat := ((left : Int) + above - corner - n).natAbs
  if distance left ≤ distance above ∧ distance left ≤ distance corner then left
  else if distance above ≤ distance corner then above
  else corner

/-- What a filter lets expect of a byte. -/
def expected? (filter left above corner : Nat) : Option Nat :=
  match filter with
  | 0 => some 0
  | 1 => some left
  | 2 => some above
  | 3 => some ((left + above) / 2)
  | 4 => some (predict left above corner)
  | _ => none

/-- The bytes of a line, given the line above it and how many bytes before a byte its neighbour is. -/
def unfilter? (filter step : Nat) (above line : ByteArray) : Option ByteArray :=
  (List.range line.size).foldlM
    (fun done i => do
      let at_ (bytes : ByteArray) (i : Nat) : Nat := (byte? bytes i).getD 0
      let (left, corner) := if i < step then (0, 0) else (at_ done (i - step), at_ above (i - step))
      let expected ← expected? filter left (at_ above i) corner
      return done.push (UInt8.ofNat (at_ line i + expected)))
    .empty

/-- The lines in data from a place on, and the place after them.  Above the first line all is zero. -/
def lines? (data : ByteArray) (step size start : Nat) (above : ByteArray) :
    Nat → Option (List ByteArray × Nat)
  | 0 => some ([], start)
  | count + 1 => do
    let filter ← byte? data start
    let line ← unfilter? filter step above (← slice? data (start + 1) size)
    let (rest, stop) ← lines? data step size (start + 1 + size) line count
    return (line :: rest, stop)

/-! ## Passes -/

/-- The first column and row of the pixels of a pass, and the distances between its columns and rows. -/
structure Pass where
  left : Nat
  top : Nat
  across : Nat
  down : Nat
deriving Repr, DecidableEq

/-- The pass of a picture that is not interlaced. -/
def wholePass : Pass := ⟨0, 0, 1, 1⟩

/-- The passes of a picture that is. -/
def interlacedPasses : List Pass :=
  [⟨0, 0, 8, 8⟩, ⟨4, 0, 8, 8⟩, ⟨0, 4, 4, 8⟩, ⟨2, 0, 4, 4⟩, ⟨0, 2, 2, 4⟩, ⟨1, 0, 2, 2⟩, ⟨0, 1, 1, 2⟩]

/-- The passes of a picture. -/
def Header.passes (h : Header) : List Pass := if h.interlaced then interlacedPasses else [wholePass]

/-- The number of columns of a pass. -/
def Pass.width (p : Pass) (h : Header) : Nat := (h.width - p.left + p.across - 1) / p.across

/-- The number of rows of a pass; a pass without columns has none. -/
def Pass.height (p : Pass) (h : Header) : Nat :=
  if p.width h = 0 then 0 else (h.height - p.top + p.down - 1) / p.down

/-- Whether a pixel belongs to a pass. -/
def Pass.contains (p : Pass) (x y : Nat) : Bool :=
  p.left ≤ x && p.top ≤ y && (x - p.left) % p.across = 0 && (y - p.top) % p.down = 0

/-- The lines of all passes. -/
def passLines? (h : Header) (data : ByteArray) (start : Nat) :
    List Pass → Option (List (Pass × Array ByteArray))
  | [] => some []
  | pass :: rest => do
    let size := h.rowBytes (pass.width h)
    let step := max 1 (h.pixelBits / 8)
    let (lines, start) ← lines? data step size start .empty (pass.height h)
    return (pass, lines.toArray) :: (← passLines? h data start rest)

/-! ## Pixels -/

/-- The sample with a number in a line. -/
def sample (depth : Nat) (line : ByteArray) (i : Nat) : Nat :=
  let byte (i : Nat) : Nat := (byte? line i).getD 0
  if depth = 16 then 256 * byte (2 * i) + byte (2 * i + 1)
  else
    let place := i * depth
    byte (place / 8) >>> (8 - depth - place % 8) % (1 <<< depth)

/-- A sample in eight bits: samples of few bits are spread, and long ones rounded. -/
def eightBits (depth value : Nat) : UInt8 :=
  UInt8.ofNat (if depth = 16 then (value + 128) / 257 else value * (255 / ((1 <<< depth) - 1)))

/-- Whether samples are those that a chunk makes transparent.  It gives two bytes for each, and short
samples are compared with the last of them. -/
def isTransparent (c : Contents) (samples : List Nat) : Bool :=
  c.transparency.any fun data =>
    let given (i : Nat) : Option Nat :=
      if c.header.depth = 16 then big? data (2 * i) 2 else byte? data (2 * i + 1)
    samples.zipIdx.all fun (value, i) => given i == some value

/-- The colour of a palette with a number; black where it has none. -/
def paletteColour (c : Contents) (i : Nat) : Pixel :=
  let part (k : Nat) : UInt8 := (c.palette.bind (·[3 * i + k]?)).getD 0
  if (c.palette.bind fun palette => slice? palette (3 * i) 3).isSome then
    ⟨part 0, part 1, part 2, (c.transparency.bind (·[i]?)).getD 255⟩
  else .solid 0 0 0

/-- The pixel that samples make. -/
def pixelOf (c : Contents) (samples : List Nat) : Pixel :=
  let eight := eightBits c.header.depth
  let alpha : UInt8 := if isTransparent c samples then 0 else 255
  match c.header.model, samples with
  | .indexed, [i] => paletteColour c i
  | .grey, [level] => ⟨eight level, eight level, eight level, alpha⟩
  | .colour, [red, green, blue] => ⟨eight red, eight green, eight blue, alpha⟩
  | .greyAlpha, [level, alpha] => ⟨eight level, eight level, eight level, eight alpha⟩
  | .colourAlpha, [red, green, blue, alpha] => ⟨eight red, eight green, eight blue, eight alpha⟩
  | _, _ => .clear

/-- Whether what a picture needs besides its pixels is there. -/
def Contents.isComplete (c : Contents) : Bool :=
  match c.header.model with
  | .indexed => c.palette.isSome
  | model => c.transparency.all fun data => 2 * model.samples ≤ data.size

/-- The picture in a file. -/
def read? (file : ByteArray) : Option Raster := do
  let c ← Contents.ofFile? file
  if !c.isComplete then none
  let h := c.header
  let passes ← passLines? h (← Deflate.read? (← c.data)) 0 h.passes
  let samplesOf (line : ByteArray) (x : Nat) : List Nat :=
    (List.range h.model.samples).map fun k => sample h.depth line (h.model.samples * x + k)
  return .ofFn h.width h.height fun x y =>
    match passes.find? fun (pass, _) => pass.contains x y with
    | some (pass, lines) =>
      let line := lines[(y - pass.top) / pass.down]?.getD .empty
      pixelOf c (samplesOf line ((x - pass.left) / pass.across))
    | none => .clear

end FrameDetect.Image.Png
