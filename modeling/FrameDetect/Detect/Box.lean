/-!
# Boxes

A detected object is reported by the centre and the size of its box, as fractions of the frame.
Corners are what is drawn and sent on: those of the box itself, or moved into the frame.
-/

namespace FrameDetect.Detect

/-- A box by its centre and its size. -/
structure Box where
  centerX : Float32
  centerY : Float32
  width : Float32
  height : Float32
deriving DecidableEq, Inhabited

/-- The left, top, right and bottom edge of a box. -/
structure Corners where
  left : Float32
  top : Float32
  right : Float32
  bottom : Float32
deriving DecidableEq

/-- Applies a function to each edge. -/
def Corners.map (f : Float32 → Float32) (c : Corners) : Corners :=
  ⟨f c.left, f c.top, f c.right, f c.bottom⟩

/-- The edges in the order in which they are written. -/
def Corners.toList (c : Corners) : List Float32 := [c.left, c.top, c.right, c.bottom]

theorem Corners.forall_mem_toList {P : Float32 → Prop} {c : Corners} :
    (∀ edge ∈ c.toList, P edge) ↔ P c.left ∧ P c.top ∧ P c.right ∧ P c.bottom := by
  simp [Corners.toList]

/-- A number moved into the frame; what is not a number stays. -/
def clampUnit (x : Float32) : Float32 :=
  let raised := if x < 0 then 0 else x
  if 1 < raised then 1 else raised

/-- The edges of the box, which may lie outside the frame. -/
def Box.rawCorners (b : Box) : Corners :=
  let halfWidth := b.width / 2
  let halfHeight := b.height / 2
  ⟨b.centerX - halfWidth, b.centerY - halfHeight, b.centerX + halfWidth, b.centerY + halfHeight⟩

/-- The edges of the box, moved into the frame. -/
def Box.corners (b : Box) : Corners := b.rawCorners.map clampUnit

/-- The area of the whole box, in the frame or not. -/
def Box.area (b : Box) : Float32 := b.width * b.height

end FrameDetect.Detect
