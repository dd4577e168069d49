import FrameDetect.Publish.Event

/-!
# Sinks

What a cycle needs of the devices that show and send on detections.  Where one fails, it gives the
reason.
-/

namespace FrameDetect.Publish

open FrameDetect.Detect (Corners)

/-- A layer over the picture.  In each cycle that publishes, it is cleared once, gets its rectangles
one by one, and is committed once. -/
structure Overlay (m : Type → Type) where
  clear : m (Except String Unit)
  rectangle : Corners → m (Except String Unit)
  commit : m (Except String Unit)

/-- A receiver of events, which are declared before the first cycle and undeclared after the last. -/
structure Notifier (m : Type → Type) where
  declare : m (Except String Unit)
  notify : Event → m (Except String Unit)
  undeclare : m Unit

end FrameDetect.Publish
