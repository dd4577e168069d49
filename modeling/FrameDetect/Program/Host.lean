import FrameDetect.Cycle.Run
import FrameDetect.Inference.Replay
import FrameDetect.Publish.Output
import FrameDetect.Video.Synthetic

/-!
# Devices of a host

On a computer without a camera the program works with a synthetic source, a replayed tensor, and the
outputs that its options choose.
-/

namespace FrameDetect.Program

open FrameDetect.Cycle (Devices)
open FrameDetect.Inference (Replay)
open FrameDetect.Publish (EventOutput Event OverlayOutput)
open FrameDetect.Video (Frame Synthetic)

/-- The devices of a host. -/
structure Host where
  source : Synthetic
  model : Replay
  overlay : OverlayOutput
  events : EventOutput

/-- A computation that uses the devices of a host, and that an overflow in one of them breaks off. -/
abbrev HostT (m : Type → Type) := StateT Host (ExceptT Overflow m)

/-- What a device does, unless an overflow breaks it off. -/
def HostT.ofDevice {m : Type → Type} [Monad m] {α : Type} (action : m (Except Overflow α)) : HostT m α :=
  StateT.lift (ExceptT.mk action)

namespace Host

variable {m : Type → Type} [Monad m] [MonadLog m] [MonadStorage m] [MonadClock m]

/-- Frames of the synthetic source. -/
def sourceDevice : Video.Source (HostT m) Frame where
  acquire := do
    let host ← get
    let (frame, source) ← .ofDevice host.source.deliver
    set { host with source }
    return frame
  release _ := modify fun host => { host with source := host.source.release }
  adaptRate d := modify fun host => { host with source := host.source.adaptRate d }
  flush := pure ()

/-- The replayed tensor as a model. -/
def modelDevice : Inference.Model (HostT m) Frame where
  preprocess frame := return (Replay.preprocess frame).mapError (·.message)
  infer frame := do
    let host ← get
    let (result, model) ← .ofDevice (host.model.run frame)
    set { host with model }
    return result.mapError (·.message)
  output index := do return ((← get).model.output index).mapError (·.message)

/-- The overlay. -/
def overlayDevice : Publish.Overlay (HostT m) where
  clear := do
    modify fun host => { host with overlay := host.overlay.clear }
    return .ok ()
  rectangle corners := do
    modify fun host => { host with overlay := host.overlay.rectangle corners }
    return .ok ()
  commit := do
    let host ← get
    let (result, overlay) ← host.overlay.commit
    set { host with overlay }
    return result.mapError (·.message)

/-- The receiver of events. -/
def notifierDevice : Publish.Notifier (HostT m) where
  declare := do
    let host ← get
    let (result, events) ← host.events.declare
    set { host with events }
    return result.mapError (·.message)
  notify event := do
    return (← (← get).events.notify event).mapError (·.message)
  undeclare := do
    let host ← get
    let events ← host.events.undeclare
    set { host with events }

/-- All devices together. -/
def devices : Devices (HostT m) Frame where
  source := sourceDevice
  model := modelDevice
  overlay := overlayDevice
  notifier := notifierDevice

end Host

end FrameDetect.Program
