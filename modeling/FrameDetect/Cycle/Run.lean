import FrameDetect.Clock
import FrameDetect.Cycle.Detector
import FrameDetect.Inference.Model
import FrameDetect.Log
import FrameDetect.Publish.Listing
import FrameDetect.Publish.Sinks
import FrameDetect.Video.Source

/-!
# Cycles

One cycle acquires a frame, runs the model on it, publishes what is detected and releases the frame.
The frame is released once on every path.  Sinks that fail are reported and change nothing else.
-/

namespace FrameDetect.Cycle

open FrameDetect.Decimal (fixed)
open FrameDetect.Detect (Detection)
open FrameDetect.Publish (Event cornersText)
open FrameDetect.Settings (Thresholds)
open FrameDetect.Time (Duration)

/-- The devices that a cycle works with. -/
structure Devices (m : Type → Type) (F : Type) where
  source : Video.Source m F
  model : Inference.Model m F
  overlay : Publish.Overlay m
  notifier : Publish.Notifier m

variable {m : Type → Type} [Monad m] [MonadLog m]

/-- Reports a step that failed. -/
def report (title : String) : Except String Unit → m Unit
  | .ok () => pure ()
  | .error reason => logWarn s!"{title}: {reason}"

variable {F : Type}

/-- Declares the events; it does not matter if that fails. -/
def Devices.declare (d : Devices m F) : m Unit := do
  report "声明检测事件失败" (← d.notifier.declare)

/-- The log line of a detection. -/
def detectionLine (label : String) (x : Detection) : String :=
  s!"检测到 {label}: 目标置信度 {fixed 2 x.objectness}, 类别得分 {fixed 2 x.best.score}, " ++
    s!"位置 {cornersText x.corners}"

/-- Draws one detection and sends its event. -/
def publishOne (d : Devices m F) (detector : Detector) (x : Detection) : m Unit := do
  let label := detector.label x.best.index
  logInfo (detectionLine label x)
  report "绘制矩形失败" (← d.overlay.rectangle x.corners)
  report "发送检测事件失败" (← d.notifier.notify (.rounded label x.best.score x.corners))

/-- Publishes detections in order, on a cleared overlay. -/
def publish (d : Devices m F) (detector : Detector) (detections : List Detection) : m Unit := do
  report "清空叠加层失败" (← d.overlay.clear)
  detections.forM (publishOne d detector)
  report "提交叠加层失败" (← d.overlay.commit)

variable [MonadClock m]

/-- The result of an action and the time that it takes. -/
def timed {α : Type} (action : m α) : m (α × Duration) := do
  let start ← elapsed
  let result ← action
  let stop ← elapsed
  return (result, ⟨stop.nanoseconds - start.nanoseconds⟩)

/-- Runs the model on a frame and publishes what is detected. -/
def process (d : Devices m F) (detector : Detector) (frame : F) :
    m (Except Fault Outcome × Detector) := do
  let (prepared, preparing) ← timed (d.model.preprocess frame)
  if let .error reason := prepared then return (.ok (.skipped .preprocessing reason), detector)
  let (inferred, inferring) ← timed (d.model.infer frame)
  if let .error reason := inferred then return (.ok (.skipped .inferring reason), detector)
  d.source.adaptRate (preparing + inferring)
  match ← d.model.output 0 with
  | .error reason => return (.ok (.skipped .inferring reason), detector)
  | .ok bytes =>
    match detector.detect bytes with
    | (.error fault, detector) => return (.error fault, detector)
    | (.ok detections, detector) =>
      publish d detector detections
      return (.ok (.published detections), detector)

/-- Runs one cycle. -/
def run (d : Devices m F) (detector : Detector) : m (Except Fault Outcome × Detector) := do
  match ← d.source.acquire with
  | none =>
    logError "获取帧失败，采集流已不可用"
    return (.ok .sourceLost, detector)
  | some frame =>
    let (result, detector) ← process d detector frame
    d.source.release frame
    match result with
    | .ok (.skipped stage reason) =>
      logWarn s!"跳过本周期 ({stage.name}): {reason}"
      d.source.flush
    | .ok _ => pure ()
    | .error fault => logError s!"周期失败: {fault.message}"
    return (result, detector)

/-- Changes the thresholds from the next cycle on. -/
def setThresholds (detector : Detector) (thresholds : Thresholds) : m Detector := do
  logInfo (s!"更新阈值: 置信度 {fixed 2 thresholds.confidence}, " ++
    s!"交并比 {fixed 2 thresholds.overlap}")
  return { detector with thresholds }

end FrameDetect.Cycle
