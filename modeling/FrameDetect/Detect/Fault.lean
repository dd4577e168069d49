/-!
# Broken preconditions

Steps of the detection pipeline that are given data of the wrong size stop before they change
anything, with one of these faults.
-/

namespace FrameDetect.Detect

/-- A precondition that does not hold. -/
inductive Fault where
  /-- A tensor has no row of this index. -/
  | noSuchRow (index rows : Nat)
  /-- A sequence has no element of this index. -/
  | outOfBounds (length index : Nat)
  /-- A mask covers another number of rows. -/
  | maskMismatch
  /-- A tensor holds another number of rows than the buffer. -/
  | rowCountMismatch
deriving Repr, DecidableEq

def Fault.message : Fault → String
  | .noSuchRow index rows => s!"检测索引越界: {index} >= {rows}"
  | .outOfBounds length index => s!"index out of bounds: the len is {length} but the index is {index}"
  | .maskMismatch => "assertion `left == right` failed: 掩码长度与检测数量不一致"
  | .rowCountMismatch => "assertion `left == right` failed: 输出张量与缓冲区的检测数量不一致"

end FrameDetect.Detect
