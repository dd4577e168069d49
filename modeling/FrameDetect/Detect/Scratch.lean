import FrameDetect.Detect.Confidence
import FrameDetect.Detect.Suppression
import FrameDetect.Tensor.View

/-!
# Scratch space

The rows and the mask that one frame after the other is decoded into.  Decoding replaces the rows
and leaves the mask; the filter replaces the mask.
-/

namespace FrameDetect.Detect

open FrameDetect.Tensor (Layout View)

/-- Decoded rows and the mask over them. -/
structure Scratch where
  rows : Array Row
  mask : Mask
deriving DecidableEq

/-- A row of zeros. -/
def Row.zero : Row := ⟨⟨0, 0, 0, 0⟩, 0⟩

namespace Scratch

/-- Scratch space for tensors of a layout. -/
def ofLayout (layout : Layout) : Scratch :=
  ⟨Array.replicate layout.rows .zero, .clear layout.rows⟩

/-- Replaces the rows by those of a tensor with as many. -/
def decode (s : Scratch) (view : View) : Except Fault Scratch :=
  if view.rows = s.rows.size then .ok { s with rows := Array.ofFn view.row }
  else .error .rowCountMismatch

/-- Rejects exactly the rows below the confidence threshold. -/
def filter (s : Scratch) (threshold : Float32) : Except Fault Scratch :=
  (filterConfidence s.rows threshold s.mask).map fun mask => { s with mask }

/-- Rejects overlapping rows, and counts the rows it rejects. -/
def suppress (s : Scratch) (threshold : Float32) (tie : TieBreak) : Except Fault (Nat × Scratch) :=
  (Detect.suppress s.rows threshold tie s.mask).map fun (count, mask) => (count, { s with mask })

/-- Rejects one row. -/
def invalidate (s : Scratch) (index : Nat) : Except Fault Scratch :=
  (s.mask.invalidate index).map fun mask => { s with mask }

/-- Takes every rejection back. -/
def reset (s : Scratch) : Scratch := { s with mask := s.mask.reset }

end Scratch

end FrameDetect.Detect
