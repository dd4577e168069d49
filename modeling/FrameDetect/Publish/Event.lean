import FrameDetect.Detect.Box
import FrameDetect.Json.Printer
import FrameDetect.Number.Rounding

/-!
# Events

What is sent on for each detection: the name of its class, how sure the model is, and where it is,
all numbers rounded to three places.
-/

namespace FrameDetect.Publish

open FrameDetect.Detect (Corners)
open FrameDetect.Number (roundAway)

/-- What the events are about. -/
def topic : String := "tns1:VideoAnalytics/tns1:ObjectDetected"

/-- A number rounded to three places. -/
def round3 (x : Float32) : Float32 := roundAway (x * 1000) / 1000

/-- A detection as it is sent on. -/
structure Event where
  label : String
  confidence : Float32
  corners : Corners
deriving DecidableEq

/-- The event of a detection, with its numbers rounded. -/
def Event.rounded (label : String) (confidence : Float32) (corners : Corners) : Event :=
  ⟨label, round3 confidence, corners.map round3⟩

/-- Corners as a list of numbers. -/
def cornersValue (corners : Corners) : Json.Value := .list (corners.toList.map .single)

/-- An event as JSON. -/
def Event.value (event : Event) : Json.Value :=
  .object
    [("class", .text event.label), ("confidence", .single event.confidence),
      ("bbox", cornersValue event.corners)]

end FrameDetect.Publish
