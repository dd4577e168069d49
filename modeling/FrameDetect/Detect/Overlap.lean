import FrameDetect.Detect.Box
import FrameDetect.Number.Order

/-!
# Overlap of two boxes

The area that two boxes share, as a fraction of the area that they cover together.
-/

namespace FrameDetect.Detect

open FrameDetect.Number (lesser greater)

/-- The length that two intervals share. -/
def sharedLength (low₁ high₁ low₂ high₂ : Float32) : Float32 :=
  greater (lesser high₁ high₂ - greater low₁ low₂) 0

/-- The area that two boxes share, by the edges of the whole boxes. -/
def sharedArea (a b : Box) : Float32 :=
  let p := a.rawCorners
  let q := b.rawCorners
  sharedLength p.left p.right q.left q.right * sharedLength p.top p.bottom q.top q.bottom

/-- The shared area over the covered area.  It is at most one, and zero where nothing is covered. -/
def overlap (a b : Box) : Float32 :=
  let shared := sharedArea a b
  let covered := a.area + b.area - shared
  if covered ≤ 0 then 0 else lesser (shared / covered) 1

end FrameDetect.Detect
