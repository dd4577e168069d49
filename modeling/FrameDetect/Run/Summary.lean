import FrameDetect.Cycle.Outcome
import FrameDetect.Overflow

/-!
# Summaries

What a run of cycles came to.
-/

namespace FrameDetect.Run

open FrameDetect.Cycle (Outcome Stage)
open FrameDetect.Detect (Detection)

/-- Counts of a run, and why it ended. -/
structure Summary where
  published : UInt64
  skipped : UInt64
  detections : UInt64
  sourceLost : Bool
  interrupted : Bool
  /-- What was published last. -/
  last : List Detection
deriving DecidableEq

namespace Summary

/-- Before the first cycle. -/
def empty : Summary := ⟨0, 0, 0, false, false, []⟩

/-- The cycles that had a frame. -/
def cycles (s : Summary) : Except Overflow UInt64 := addChecked s.published s.skipped

/-- Adds the outcome of a cycle. -/
def record (s : Summary) : Outcome → Except Overflow Summary
  | .published found => do
    let published ← addChecked s.published 1
    let detections ← addChecked s.detections (.ofNat found.length)
    return { s with published, detections, last := found }
  | .skipped _ _ => do
    let skipped ← addChecked s.skipped 1
    return { s with skipped }
  | .sourceLost => return { s with sourceLost := true }

end Summary

/-- Why a run has no summary. -/
inductive Fault where
  | cycle (cause : Cycle.Fault)
  /-- There was no frame for the only cycle. -/
  | noFrame
  /-- The only cycle was skipped. -/
  | skipped (stage : Stage) (reason : String)
  /-- A count of the run has grown too large, and the run breaks off. -/
  | overflow (cause : Overflow)
deriving Repr, DecidableEq

def Fault.message : Fault → String
  | .cycle cause => cause.message
  | .noFrame => "没有输入帧"
  | .skipped stage reason => s!"本周期在 {stage.name} 阶段被跳过: {reason}"
  | .overflow cause => cause.message

/-- The summary after one more cycle, by the result of the cycle. -/
def Summary.extend (s : Summary) (result : Except Cycle.Fault Outcome) : Except Fault Summary := do
  let outcome ← result.mapError .cycle
  (s.record outcome).mapError .overflow

end FrameDetect.Run
