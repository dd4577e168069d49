/-!
# Rasters

Pictures as rows of pixels, each of four parts.
-/

namespace FrameDetect.Image

/-- The colour of a pixel, and how much it covers what is behind it. -/
structure Pixel where
  red : UInt8
  green : UInt8
  blue : UInt8
  alpha : UInt8
deriving Repr, DecidableEq, Inhabited

namespace Pixel

/-- What shows everything behind it. -/
def clear : Pixel := ⟨0, 0, 0, 0⟩

/-- A colour that hides everything behind it. -/
def solid (red green blue : UInt8) : Pixel := ⟨red, green, blue, 255⟩

/-- A grey that hides everything behind it. -/
def grey (level : UInt8) : Pixel := solid level level level

/-- The parts of a pixel. -/
def toList (p : Pixel) : List UInt8 := [p.red, p.green, p.blue, p.alpha]

end Pixel

/-- A picture.  Pixels are numbered row by row. -/
structure Raster where
  width : Nat
  height : Nat
  pixels : Vector Pixel (width * height)

namespace Raster

/-- The picture with the given pixel in each column and row. -/
def ofFn (width height : Nat) (pixel : Nat → Nat → Pixel) : Raster :=
  ⟨width, height, .ofFn fun i => pixel (i % width) (i / width)⟩

/-- The pixel in a column and a row. -/
def pixel (r : Raster) (x y : Nat) : Pixel :=
  if x < r.width then r.pixels[y * r.width + x]?.getD .clear else .clear

/-- The pixels row by row, from the first row on. -/
def toList (r : Raster) : List Pixel := r.pixels.toList

/-- The rows, from the first one on. -/
def rows (r : Raster) : List (List Pixel) :=
  (List.range r.height).map fun y => (List.range r.width).map fun x => r.pixel x y

end Raster

end FrameDetect.Image
