/-!
# Affine quantization

A byte of a tensor stands for a number: its distance from the zero point, times the scale.
-/

namespace FrameDetect.Tensor

/-- The numbers that bytes stand for. -/
structure Quantization where
  scale : Float32
  zeroPoint : Float32
deriving DecidableEq

/-- The number that a byte stands for. -/
def Quantization.dequantize (q : Quantization) (raw : UInt8) : Float32 :=
  (raw.toFloat32 - q.zeroPoint) * q.scale

end FrameDetect.Tensor
