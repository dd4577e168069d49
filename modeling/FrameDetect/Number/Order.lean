/-!
# Ordering numbers of single precision

The least and greatest of two numbers, where something that is not a number never wins, and the
numbers from zero to one, among which it is not.
-/

namespace FrameDetect.Number

/-- The smaller of two numbers; what is not a number loses. -/
def lesser (a b : Float32) : Float32 :=
  if a.isNaN then b else if b.isNaN then a else if b < a then b else a

/-- The greater of two numbers; what is not a number loses. -/
def greater (a b : Float32) : Float32 :=
  if a.isNaN then b else if b.isNaN then a else if a < b then b else a

/-- A number with `0 ≤ x ≤ 1`. -/
def isUnit (x : Float32) : Bool := decide (0 ≤ x) && decide (x ≤ 1)

end FrameDetect.Number
