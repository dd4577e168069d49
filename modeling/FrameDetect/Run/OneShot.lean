import FrameDetect.Cycle.Run
import FrameDetect.Run.Summary

/-!
# Single cycles

A run of exactly one cycle, which must publish.
-/

namespace FrameDetect.Run.OneShot

open FrameDetect.Cycle (Detector Devices)

variable {m : Type → Type} [Monad m] [MonadLog m] [MonadClock m] {F : Type}

/-- Runs one cycle between the declaration of the events and its end. -/
def run (d : Devices m F) (detector : Detector) : m (Except Fault Summary × Detector) := do
  logInfo "开始任务..."
  d.declare
  let (result, detector) ← Cycle.run d detector
  d.notifier.undeclare
  let result := match result with
    | .error fault => .error (.cycle fault)
    | .ok .sourceLost => .error .noFrame
    | .ok (.skipped stage reason) => .error (.skipped stage reason)
    | .ok (.published detections) =>
      (Summary.empty.record (.published detections)).mapError .overflow
  return (result, detector)

end FrameDetect.Run.OneShot
