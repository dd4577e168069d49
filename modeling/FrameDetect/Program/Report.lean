import FrameDetect.Detect.Detection
import FrameDetect.Json.Printer
import FrameDetect.Labels
import FrameDetect.Number.Rounding
import FrameDetect.Publish.Event

/-!
# Reports

Detections as JSON: compact with the numbers as they are, or as the program prints them, with their
labels, the names sorted and the numbers in double precision.
-/

namespace FrameDetect.Program

open FrameDetect.Detect (Detection)
open FrameDetect.Json (Value)
open FrameDetect.Number (widen)

/-- A detection as JSON. -/
def detectionValue (x : Detection) : Value :=
  .object
    [("index", .integer x.index), ("class_index", .integer x.best.index),
      ("class_score", .single x.best.score), ("objectness", .single x.objectness),
      ("bbox", Publish.cornersValue x.corners)]

/-- A number in double precision, or nothing where JSON has no such number. -/
def wideValue (x : Float32) : Value := if x.isFinite then .real (widen x) else .null

/-- A detection with sorted names and numbers in double precision. -/
def wideDetection (x : Detection) : Value :=
  .sorted
    [("index", .integer x.index), ("class_index", .integer x.best.index),
      ("class_score", wideValue x.best.score), ("objectness", wideValue x.objectness),
      ("bbox", .list (x.corners.toList.map wideValue))]

/-- A detection with the label of its class. -/
def labelledDetection (labels : Labels) (x : Detection) : Value :=
  let label := match labels.get? x.best.index with
    | some name => .text name
    | none => .null
  .sorted [("label", label), ("detection", wideDetection x)]

/-- The text that tells all detections. -/
def reportText (labels : Labels) (detections : List Detection) : String :=
  (Value.list (detections.map (labelledDetection labels))).pretty

end FrameDetect.Program
