import FrameDetect.Detect.Fault
import FrameDetect.Detect.Row
import FrameDetect.Tensor.Layout

/-!
# Views of a tensor

A view reads the rows of an output tensor.  It is made only over enough bytes for its layout, so
that every byte it reads is there; bytes beyond the last row are never read.
-/

namespace FrameDetect.Tensor

open FrameDetect.Detect (Box Row ClassScore Fault bestClass)

/-- A tensor with fewer bytes than its layout needs. -/
structure ShortTensor where
  expected : Nat
  actual : Nat
deriving Repr, DecidableEq

def ShortTensor.message (e : ShortTensor) : String :=
  s!"输出张量长度不足: 期望至少 {e.expected} 字节, 实际 {e.actual} 字节"

/-- A tensor with its layout. -/
structure View where
  layout : Layout
  bytes : ByteArray
  enough : layout.tensorSize ≤ bytes.size

namespace View

/-- The view of a tensor under a layout. -/
def ofBytes (layout : Layout) (bytes : ByteArray) : Except ShortTensor View :=
  if h : layout.tensorSize ≤ bytes.size then .ok ⟨layout, bytes, h⟩
  else .error ⟨layout.tensorSize, bytes.size⟩

/-- The number of rows. -/
def rows (v : View) : Nat := v.layout.rows

/-- A field of a row lies within the tensor. -/
theorem offset_lt (v : View) (i : Fin v.rows) (k : Fin v.layout.rowSize) :
    i.val * v.layout.rowSize + k.val < v.bytes.size := by
  have hi : i.val + 1 ≤ v.layout.rows := i.isLt
  have hk := k.isLt
  have hrows : (i.val + 1) * v.layout.rowSize ≤ v.layout.rows * v.layout.rowSize :=
    Nat.mul_le_mul_right _ hi
  have henough := v.enough
  simp only [Layout.tensorSize] at henough
  rw [Nat.succ_mul] at hrows
  omega

/-- The number in a field of a row. -/
def field (v : View) (i : Fin v.rows) (k : Fin v.layout.rowSize) : Float32 :=
  v.layout.quantization.dequantize
    (v.bytes.get (i.val * v.layout.rowSize + k.val) (v.offset_lt i k))

/-- The number in a field before the class scores. -/
def boxField (v : View) (i : Fin v.rows) (k : Fin boxFields) : Float32 :=
  v.field i ⟨k.val, Nat.lt_trans k.isLt v.layout.boxFields_lt_rowSize⟩

/-- The box in a row. -/
def box (v : View) (i : Fin v.rows) : Box :=
  ⟨v.boxField i 0, v.boxField i 1, v.boxField i 2, v.boxField i 3⟩

/-- The objectness in a row. -/
def objectness (v : View) (i : Fin v.rows) : Float32 := v.boxField i 4

/-- The box and the objectness in a row. -/
def row (v : View) (i : Fin v.rows) : Row := ⟨v.box i, v.objectness i⟩

/-- The class scores in a row. -/
def scores (v : View) (i : Fin v.rows) : List Float32 :=
  List.ofFn fun k : Fin v.layout.classes =>
    v.field i ⟨boxFields + k.val, Nat.add_lt_add_left k.isLt boxFields⟩

/-- The best class in a row. -/
def best (v : View) (i : Fin v.rows) : ClassScore := bestClass (v.scores i)

/-- An index as a row of the tensor. -/
def rowIndex (v : View) (index : Nat) : Except Fault (Fin v.rows) :=
  if h : index < v.rows then .ok ⟨index, h⟩ else .error (.noSuchRow index v.rows)

end View

end FrameDetect.Tensor
