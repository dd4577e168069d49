import FrameDetect.Detect.Box

/-!
# Rows

What one row of a tensor says without its classes: a box and how likely it holds an object.
-/

namespace FrameDetect.Detect

/-- A box and its objectness. -/
structure Row where
  box : Box
  objectness : Float32
deriving DecidableEq, Inhabited

/-- A class and its score. -/
structure ClassScore where
  index : Nat
  score : Float32
deriving DecidableEq

/-- Negative infinity, which is below every score. -/
def belowAll : Float32 := .ofModel (.pack (.infinity .negative))

/-- The first class with the greatest score. -/
def bestClass (scores : List Float32) : ClassScore :=
  scores.zipIdx.foldl
    (fun best (score, index) => if best.score < score then ⟨index, score⟩ else best)
    ⟨0, belowAll⟩

end FrameDetect.Detect
