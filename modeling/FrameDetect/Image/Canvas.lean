import FrameDetect.Image.Raster

/-!
# Canvases

A canvas holds for each pixel whether an outline covers it.  Pixels are numbered row by row.
-/

namespace FrameDetect.Image

/-- Pixels that are covered or not. -/
structure Canvas where
  width : Nat
  height : Nat
  covered : Array Bool
deriving DecidableEq

/-- The pixels of an upright rectangle, by its first and last column and row. -/
structure Outline where
  left : Nat
  top : Nat
  right : Nat
  bottom : Nat
deriving Repr, DecidableEq

namespace Canvas

/-- A canvas without outlines. -/
def clear (width height : Nat) : Canvas := ⟨width, height, Array.replicate (width * height) false⟩

/-- Whether a pixel is covered. -/
def isCovered (c : Canvas) (x y : Nat) : Bool :=
  decide (x < c.width) && c.covered[y * c.width + x]?.getD false

/-- Covers a pixel; one that is not on the canvas is ignored. -/
def cover (c : Canvas) (x y : Nat) : Canvas :=
  if x < c.width then { c with covered := c.covered.setIfInBounds (y * c.width + x) true } else c

/-- Covers `length` pixels to the right. -/
def coverRight (c : Canvas) (x y : Nat) : Nat → Canvas
  | 0 => c
  | length + 1 => (c.cover x y).coverRight (x + 1) y length

/-- Covers `length` pixels downwards. -/
def coverDown (c : Canvas) (x y : Nat) : Nat → Canvas
  | 0 => c
  | length + 1 => (c.cover x y).coverDown x (y + 1) length

/-- Covers the border of a rectangle. -/
def draw (c : Canvas) (o : Outline) : Canvas :=
  let across := o.right + 1 - o.left
  let down := o.bottom + 1 - o.top
  let c := c.coverRight o.left o.top across
  let c := c.coverRight o.left o.bottom across
  let c := c.coverDown o.left o.top down
  c.coverDown o.right o.top down

/-- The colour of outlines. -/
def outlineColour : Pixel := .solid 255 0 0

/-- The canvas as a picture: outlines on what is clear. -/
def raster (c : Canvas) : Raster :=
  .ofFn c.width c.height fun x y => if c.isCovered x y then outlineColour else .clear

end Canvas

end FrameDetect.Image
