import FrameDetect.Detect.Scratch

/-!
# Detections

The rows that survive, with their best class and their corners in the frame.
-/

namespace FrameDetect.Detect

open FrameDetect.Tensor (View)

/-- An object found in a frame. -/
structure Detection where
  /-- The row that reports it. -/
  index : Nat
  best : ClassScore
  objectness : Float32
  corners : Corners
deriving DecidableEq

/-- The detection in row `index`, from the decoded rows and the tensor's class scores. -/
def resolveRow (view : View) (rows : Array Row) (index : Nat) : Except Fault Detection :=
  match rows[index]? with
  | none => .error (.outOfBounds rows.size index)
  | some row => (view.rowIndex index).map fun i =>
      { index, best := view.best i, objectness := row.objectness, corners := row.box.corners }

/-- The surviving rows as detections, in ascending order. -/
def Scratch.resolve (s : Scratch) (view : View) : Except Fault (List Detection) :=
  s.mask.survivors.mapM (resolveRow view s.rows)

end FrameDetect.Detect
