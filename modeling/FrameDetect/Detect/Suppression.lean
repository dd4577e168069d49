import FrameDetect.Detect.Mask
import FrameDetect.Detect.Overlap
import FrameDetect.Detect.Row

/-!
# Suppression of overlapping rows

Each row that is still kept is compared with the kept rows after it.  Of two rows that overlap by
more than the threshold the one with the smaller objectness is rejected; a row that is rejected
itself is compared no further.
-/

namespace FrameDetect.Detect

/-- Which of two overlapping rows with the same objectness is rejected. -/
inductive TieBreak where
  | later
  | earlier
deriving Repr, DecidableEq, Inhabited

/-- Whether the second of two overlapping rows wins over the first. -/
def secondWins (tie : TieBreak) (first second : Row) : Bool :=
  if second.objectness < first.objectness then false
  else if first.objectness < second.objectness then true
  else tie = .earlier

/-- Whether two rows overlap by more than the threshold. -/
def conflicts (threshold : Float32) (first second : Row) : Bool :=
  !decide (overlap first.box second.box ≤ threshold)

/-- Compares row `i` with the rows from `j` on, and counts the rejections. -/
def sweep (threshold : Float32) (tie : TieBreak) (i : Nat) (first : Row) :
    Nat → List Row → Mask → Nat × Mask
  | _, [], mask => (0, mask)
  | j, second :: rest, mask =>
    if mask.keeps j && conflicts threshold first second then
      if secondWins tie first second then (1, mask.reject i)
      else
        let (count, mask) := sweep threshold tie i first (j + 1) rest (mask.reject j)
        (count + 1, mask)
    else sweep threshold tie i first (j + 1) rest mask

/-- Compares each row from `i` on with those after it, and counts the rejections. -/
def suppressFrom (threshold : Float32) (tie : TieBreak) : Nat → List Row → Mask → Nat × Mask
  | _, [], mask => (0, mask)
  | i, first :: rest, mask =>
    let (count, mask) :=
      if mask.keeps i then sweep threshold tie i first (i + 1) rest mask else (0, mask)
    let (more, mask) := suppressFrom threshold tie (i + 1) rest mask
    (count + more, mask)

/-- Rejects overlapping rows, and counts the rows it rejects. -/
def suppress (rows : Array Row) (threshold : Float32) (tie : TieBreak) (mask : Mask) :
    Except Fault (Nat × Mask) :=
  if rows.size = mask.size then .ok (suppressFrom threshold tie 0 rows.toList mask)
  else .error .maskMismatch

end FrameDetect.Detect
