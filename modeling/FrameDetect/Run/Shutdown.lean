import FrameDetect.Time.Duration

/-!
# Requests to shut down

Any number of triggers can ask a run to stop.  A request that has been noticed once is remembered, and
none is lost while the run still listens.
-/

namespace FrameDetect.Run

open FrameDetect.Time (Duration)

/-- What a run needs to notice requests. -/
structure Listener (m : Type → Type) where
  /-- Whether a request has been made. -/
  isTriggered : m Bool
  /-- Waits until a moment of the steady clock, or until a request; whether there is one. -/
  waitUntil : Duration → m Bool

/-- The requests between triggers and a listener. -/
structure Shutdown where
  /-- Requests that have not been noticed. -/
  pending : Nat
  /-- Whether a request has been noticed. -/
  noticed : Bool
  /-- Whether anyone listens. -/
  listening : Bool
deriving Repr, DecidableEq

namespace Shutdown

/-- No request. -/
def quiet : Shutdown := ⟨0, false, true⟩

/-- Makes a request, which is ignored if nobody listens. -/
def trigger (s : Shutdown) : Shutdown :=
  if s.listening then { s with pending := s.pending + 1 } else s

/-- Whether a request has been made so far. -/
def isTriggered (s : Shutdown) : Bool × Shutdown :=
  if s.noticed then (true, s)
  else if 0 < s.pending then (true, { s with pending := s.pending - 1, noticed := true })
  else (false, s)

/-- Waits while `arriving` more requests are made; whether there is a request. -/
def wait (s : Shutdown) (arriving : Nat) : Bool × Shutdown :=
  isTriggered { s with pending := s.pending + arriving }

/-- Stops listening. -/
def close (s : Shutdown) : Shutdown := { s with listening := false }

end Shutdown

end FrameDetect.Run
