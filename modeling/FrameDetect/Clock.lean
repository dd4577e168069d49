import FrameDetect.Time.Duration
import FrameDetect.Time.Timestamp

/-!
# Clocks

A steady clock measures spans of time; the calendar clock dates what is recorded.
-/

namespace FrameDetect

open FrameDetect.Time (Duration Timestamp)

/-- A computation that can read clocks. -/
class MonadClock (m : Type → Type) where
  /-- The time since a fixed moment, which never goes back. -/
  elapsed : m Duration
  /-- The present moment. -/
  timestamp : m Timestamp

export MonadClock (elapsed timestamp)

instance {m n : Type → Type} [MonadLift m n] [MonadClock m] : MonadClock n where
  elapsed := monadLift (elapsed : m _)
  timestamp := monadLift (timestamp : m _)

end FrameDetect
