import FrameDetect.Detect.Mask
import FrameDetect.Detect.Row

/-!
# Confidence filter

The filter starts from a clear mask and rejects each row whose objectness lies below the threshold.
-/

namespace FrameDetect.Detect

/-- Rejects rows below the threshold, the first of `rows` having the given index. -/
def rejectBelow (threshold : Float32) : Nat → List Row → Mask → Mask
  | _, [], mask => mask
  | index, row :: rest, mask =>
    rejectBelow threshold (index + 1) rest
      (if row.objectness < threshold then mask.reject index else mask)

/-- A mask of the same size that rejects the rows below the threshold and no others. -/
def filterConfidence (rows : Array Row) (threshold : Float32) (mask : Mask) : Except Fault Mask :=
  if rows.size = mask.size then .ok (rejectBelow threshold 0 rows.toList mask.reset)
  else .error .maskMismatch

end FrameDetect.Detect
