/-!
# Models

What a cycle needs of the device that runs a model.  A reason tells why a step failed.
-/

namespace FrameDetect.Inference

/-- A device that runs a model on frames.  A tensor can be read after a frame has been inferred. -/
structure Model (m : Type → Type) (F : Type) where
  preprocess : F → m (Except String Unit)
  infer : F → m (Except String Unit)
  /-- The bytes of an output tensor. -/
  output : Nat → m (Except String ByteArray)

end FrameDetect.Inference
