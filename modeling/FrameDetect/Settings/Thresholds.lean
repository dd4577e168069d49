import FrameDetect.Number.Order
import FrameDetect.Settings.Fault

/-!
# Thresholds

Two numbers from zero to one: the least objectness of a published row, and the greatest overlap of
two of them.  Devices keep them as whole percentages.
-/

namespace FrameDetect.Settings

open FrameDetect.Number (isUnit)

/-- Numbers for both thresholds. -/
structure Thresholds where
  confidence : Float32
  overlap : Float32
deriving DecidableEq

/-- A number as a threshold. -/
def checkUnit (threshold : Threshold) (value : Float32) : Except Fault Float32 :=
  if isUnit value then .ok value else .error (.outOfRange threshold value)

/-- A percentage as a fraction. -/
def percent (n : Int) : Float32 := Float32.ofInt n / 100

namespace Thresholds

/-- Thresholds from zero to one. -/
def ofNumbers (confidence overlap : Float32) : Except Fault Thresholds := do
  return ⟨← checkUnit .confidence confidence, ← checkUnit .overlap overlap⟩

/-- Thresholds from percentages. -/
def ofPercent (confidence overlap : Int) : Except Fault Thresholds :=
  ofNumbers (percent confidence) (percent overlap)

end Thresholds

end FrameDetect.Settings
