import FrameDetect.Overflow

/-!
# Video frames

A frame is a picture of known size and pixel format with its number in the stream.  The length of its
data follows from size and format.
-/

namespace FrameDetect.Video

/-- How the pixels of a frame are stored. -/
inductive PixelFormat where
  /-- A plane of brightness and one of colour at half the resolution. -/
  | nv12
  /-- Three bytes for each pixel. -/
  | rgb
deriving Repr, DecidableEq

def PixelFormat.name : PixelFormat → String
  | .nv12 => "Nv12"
  | .rgb => "Rgb"

/-- The bytes of a frame.  There are three for each pixel at first, of which a format may keep a part. -/
def PixelFormat.frameLength (format : PixelFormat) (width height : UInt32) : Except Overflow UInt64 := do
  let pixels ← mulChecked width.toUInt64 height.toUInt64
  match format with
  | .nv12 => return (← mulChecked pixels 3) / 2
  | .rgb => mulChecked pixels 3

/-- Why data makes no frame. -/
inductive FrameFault where
  /-- Data of another length than the frame needs. -/
  | lengthMismatch (expected actual : Nat)
  | overflow (cause : Overflow)
deriving Repr, DecidableEq

def FrameFault.message : FrameFault → String
  | .lengthMismatch expected actual => s!"数据长度不匹配: 期望长度 {expected}, 实际长度 {actual}"
  | .overflow cause => cause.message

/-- A picture of the stream. -/
structure Frame where
  sequence : UInt64
  width : UInt32
  height : UInt32
  format : PixelFormat
  data : ByteArray

namespace Frame

/-- A frame over given data, which must have the length of the frame. -/
def ofData (sequence : UInt64) (width height : UInt32) (format : PixelFormat) (data : ByteArray) :
    Except FrameFault Frame := do
  let expected ← (format.frameLength width height).mapError .overflow
  if data.size = expected.toNat then .ok { sequence, width, height, format, data }
  else .error (.lengthMismatch expected.toNat data.size)

/-- A frame of zeros. -/
def blank (sequence : UInt64) (width height : UInt32) (format : PixelFormat) : Except Overflow Frame := do
  let data ← zeros (← format.frameLength width height)
  return { sequence, width, height, format, data }

/-- Changes one byte of the frame. -/
def write? (frame : Frame) (position : Nat) (value : UInt8) : Option Frame :=
  if h : position < frame.data.size then some { frame with data := frame.data.set position value h }
  else none

end Frame

end FrameDetect.Video
