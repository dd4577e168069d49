import FrameDetect.Time.Duration

/-!
# Frame sources

What a cycle needs of the device that delivers frames.
-/

namespace FrameDetect.Video

/-- A device that delivers frames.  Each cycle acquires one frame and releases it once, however the
cycle ends. -/
structure Source (m : Type → Type) (F : Type) where
  /-- The next frame; none if the stream has been taken away for good. -/
  acquire : m (Option F)
  /-- Gives a frame back. -/
  release : F → m Unit
  /-- Tells how long a frame took, so that the device can slow down. -/
  adaptRate : Time.Duration → m Unit
  /-- Drops frames that wait. -/
  flush : m Unit

end FrameDetect.Video
