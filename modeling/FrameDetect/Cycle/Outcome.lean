import FrameDetect.Detect.Detection
import FrameDetect.Labels

/-!
# Outcomes of a cycle

A cycle publishes what it detects, is skipped because a device failed, or finds the stream gone.
-/

namespace FrameDetect.Cycle

open FrameDetect.Detect (Detection)
open FrameDetect.Tensor (ShortTensor)

/-- A part of a cycle that may fail without harm to the next cycle. -/
inductive Stage where
  | preprocessing
  | inferring
deriving Repr, DecidableEq

def Stage.name : Stage → String
  | .preprocessing => "Preprocessing"
  | .inferring => "Inferring"

/-- How a cycle ends. -/
inductive Outcome where
  /-- Detections were published, in ascending order. -/
  | published (detections : List Detection)
  /-- A device failed; the next cycle may do better. -/
  | skipped (stage : Stage) (reason : String)
  /-- There are no more frames. -/
  | sourceLost
deriving DecidableEq

/-- Why cycles cannot go on. -/
inductive Fault where
  | labels (cause : LabelFault)
  | malformedTensor (cause : ShortTensor)
  | broken (cause : Detect.Fault)
deriving Repr, DecidableEq

def Fault.message : Fault → String
  | .labels cause => s!"标签表错误: {cause.message}"
  | .malformedTensor cause => s!"输出张量格式错误: {cause.message}"
  | .broken cause => cause.message

end FrameDetect.Cycle
