import FrameDetect.Decimal.Style
import FrameDetect.Tensor.Quantization

/-!
# Layout of an output tensor

A detection model writes its output as rows of bytes, five for the box and the objectness and one
for each class.  A manifest states the sizes; a layout is a manifest whose sizes are positive, whose
quantization is usable and whose rows fit the address space.
-/

namespace FrameDetect.Tensor

open FrameDetect.Decimal (messageStyle)

/-- The fields before the class scores in each row: centre, size and objectness. -/
abbrev boxFields : Nat := 5

/-- What a model's manifest states. -/
structure Manifest where
  inputWidth : UInt32
  inputHeight : UInt32
  scale : Float32
  zeroPoint : Float32
  classes : UInt64
  rows : UInt64

/-- The sizes of a manifest that must not be zero. -/
inductive Size where
  | inputWidth
  | inputHeight
  | classes
  | rows
deriving Repr, DecidableEq

/-- The name of the size in a manifest. -/
def Size.name : Size → String
  | .inputWidth => "input_width"
  | .inputHeight => "input_height"
  | .classes => "num_classes"
  | .rows => "num_detections"

/-- Why a manifest describes no layout. -/
inductive LayoutFault where
  | zero (size : Size)
  | scale (value : Float32)
  | zeroPoint (value : Float32)
  | tooLarge (rows classes : Nat)
deriving DecidableEq

def LayoutFault.message : LayoutFault → String
  | .zero size => s!"模型参数 {size.name} 不能为 0"
  | .scale value => s!"量化系数无效: {messageStyle.single value}"
  | .zeroPoint value => s!"量化零点无效: {messageStyle.single value}"
  | .tooLarge rows classes => s!"输出张量尺寸溢出: {rows} 个检测, {classes} 个类别"

/-- The number of byte addresses. -/
def addressSpace : Nat := 18446744073709551616

/-- The shape and the quantization of a model's output. -/
structure Layout where
  inputWidth : UInt32
  inputHeight : UInt32
  quantization : Quantization
  classes : Nat
  rows : Nat
  classes_pos : 0 < classes
  rows_pos : 0 < rows
  fits : rows * (boxFields + classes) < addressSpace
deriving DecidableEq

/-- The bytes of one row. -/
def Layout.rowSize (l : Layout) : Nat := boxFields + l.classes

/-- The bytes of all rows. -/
def Layout.tensorSize (l : Layout) : Nat := l.rows * l.rowSize

theorem Layout.boxFields_lt_rowSize (l : Layout) : boxFields < l.rowSize :=
  Nat.lt_add_of_pos_right l.classes_pos

theorem Layout.rows_le_tensorSize (l : Layout) : l.rows ≤ l.tensorSize :=
  Nat.le_mul_of_pos_right _ (Nat.zero_lt_of_lt l.boxFields_lt_rowSize)

theorem Layout.tensorSize_lt (l : Layout) : l.tensorSize < addressSpace := l.fits

/-- The layout that a manifest describes.  The sizes are looked at first, then the quantization, then
the whole. -/
def Layout.ofManifest (m : Manifest) : Except LayoutFault Layout :=
  if m.inputWidth = 0 then .error (.zero .inputWidth)
  else if m.inputHeight = 0 then .error (.zero .inputHeight)
  else if hc : m.classes.toNat = 0 then .error (.zero .classes)
  else if hr : m.rows.toNat = 0 then .error (.zero .rows)
  else if !m.scale.isFinite || decide (m.scale ≤ 0) then .error (.scale m.scale)
  else if !m.zeroPoint.isFinite then .error (.zeroPoint m.zeroPoint)
  else if h : m.rows.toNat * (boxFields + m.classes.toNat) < addressSpace then
    .ok
      { inputWidth := m.inputWidth
        inputHeight := m.inputHeight
        quantization := ⟨m.scale, m.zeroPoint⟩
        classes := m.classes.toNat
        rows := m.rows.toNat
        classes_pos := Nat.pos_of_ne_zero hc
        rows_pos := Nat.pos_of_ne_zero hr
        fits := h }
  else .error (.tooLarge m.rows.toNat m.classes.toNat)

end FrameDetect.Tensor
