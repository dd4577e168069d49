import FrameDetect.Cycle.Outcome
import FrameDetect.Settings.Thresholds

/-!
# Detectors

What stays from one cycle to the next: the layout of tensors, the labels, the thresholds, and the
scratch space that every tensor is decoded into.
-/

namespace FrameDetect.Cycle

open FrameDetect.Detect (Detection Scratch TieBreak)
open FrameDetect.Settings (Thresholds)
open FrameDetect.Tensor (Layout View)

/-- Everything that turns tensors into detections. -/
structure Detector where
  layout : Layout
  labels : Labels
  thresholds : Thresholds
  tieBreak : TieBreak
  scratch : Scratch
deriving DecidableEq

namespace Detector

/-- A detector with clear scratch space.  There must be a label for each class. -/
def ofSettings (layout : Layout) (labels : Labels) (thresholds : Thresholds) (tieBreak : TieBreak) :
    Except Fault Detector :=
  match labels.ensureCovers layout.classes with
  | .error cause => .error (.labels cause)
  | .ok () => .ok { layout, labels, thresholds, tieBreak, scratch := .ofLayout layout }

/-- Decodes a tensor, rejects rows by confidence and by overlap, and resolves those that are left. -/
def detectView (d : Detector) (view : View) : Except Detect.Fault (List Detection × Scratch) := do
  let scratch ← d.scratch.decode view
  let scratch ← scratch.filter d.thresholds.confidence
  let (_, scratch) ← scratch.suppress d.thresholds.overlap d.tieBreak
  return (← scratch.resolve view, scratch)

/-- The detections in a tensor, and the detector afterwards. -/
def detect (d : Detector) (bytes : ByteArray) : Except Fault (List Detection) × Detector :=
  match View.ofBytes d.layout bytes with
  | .error short => (.error (.malformedTensor short), d)
  | .ok view =>
    match d.detectView view with
    | .error fault => (.error (.broken fault), d)
    | .ok (detections, scratch) => (.ok detections, { d with scratch })

/-- The label of a class that has none. -/
def unknownLabel : String := "unknown"

/-- The label of a class. -/
def label (d : Detector) (index : Nat) : String := (d.labels.get? index).getD unknownLabel

end Detector

end FrameDetect.Cycle
