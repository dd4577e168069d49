import FrameDetect.Detect.Fault

/-!
# Masks

A mask marks which rows are rejected.  Rows are only ever rejected one by one; the whole mask is
cleared at once.
-/

namespace FrameDetect.Detect

/-- For each row whether it is rejected. -/
structure Mask where
  rejected : Array Bool
deriving Repr, DecidableEq

namespace Mask

/-- A mask over `n` rows, none of them rejected. -/
def clear (n : Nat) : Mask := ⟨Array.replicate n false⟩

/-- The number of rows. -/
def size (mask : Mask) : Nat := mask.rejected.size

/-- Takes every rejection back. -/
def reset (mask : Mask) : Mask := clear mask.size

/-- Whether there is such a row and it is not rejected. -/
def keeps (mask : Mask) (index : Nat) : Bool := mask.rejected[index]? == some false

/-- Rejects a row; a row that is not there is ignored. -/
def reject (mask : Mask) (index : Nat) : Mask := ⟨mask.rejected.setIfInBounds index true⟩

/-- Rejects a row of the mask. -/
def invalidate (mask : Mask) (index : Nat) : Except Fault Mask :=
  if index < mask.size then .ok (mask.reject index) else .error (.outOfBounds mask.size index)

/-- Whether a row of the mask is not rejected. -/
def isValid (mask : Mask) (index : Nat) : Except Fault Bool :=
  if index < mask.size then .ok (mask.keeps index) else .error (.outOfBounds mask.size index)

/-- The rows that are not rejected, in ascending order. -/
def survivors (mask : Mask) : List Nat := (List.range mask.size).filter mask.keeps

/-- The number of rows that are not rejected. -/
def countValid (mask : Mask) : Nat := mask.rejected.count false

@[simp] theorem size_clear (n : Nat) : (clear n).size = n := by simp [clear, size]

@[simp] theorem size_reset (mask : Mask) : mask.reset.size = mask.size := by simp [reset]

@[simp] theorem size_reject (mask : Mask) (index : Nat) : (mask.reject index).size = mask.size := by
  simp [reject, size]

end Mask

end FrameDetect.Detect
