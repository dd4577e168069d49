import FrameDetect.Cycle.Run
import FrameDetect.Run.Shutdown
import Mathlib.Data.List.Basic
import Mathlib.Logic.Function.Iterate

/-!
# Scenes

Cycles among devices of any behaviour.  The devices, the log and the clocks have a memory in common, in
which they may keep what they like, and requests to shut down may come before anything that happens.  A
scene writes down what happens, one entry after the other.
-/

namespace FrameDetect.Cycle

open FrameDetect.Detect (Corners)
open FrameDetect.Publish (Event)
open FrameDetect.Run (Listener Shutdown)
open FrameDetect.Time (Duration Timestamp)

/-- A call of a device.  What the source and the model deliver is part of it. -/
inductive DeviceCall (F : Type) where
  | acquire (frame : Option F)
  | release (frame : F)
  | adaptRate (spent : Duration)
  | flush
  | preprocess (frame : F) (result : Except String Unit)
  | infer (frame : F) (result : Except String Unit)
  | output (index : Nat) (result : Except String ByteArray)
  | clear
  | rectangle (corners : Corners)
  | commit
  | declare
  | notify (event : Event)
  | undeclare

/-- What a scene writes down. -/
inductive Happening (F : Type) where
  | call (call : DeviceCall F)
  /-- A request to shut down is made. -/
  | request
  /-- The listener is asked whether there has been a request. -/
  | look

/-- The calls among what happened. -/
def calls {F : Type} (past : List (Happening F)) : List (DeviceCall F) :=
  past.filterMap fun
    | .call call => some call
    | .request | .look => none

/-- Devices, log and clocks with a memory of type `σ`, and those who make requests to shut down. -/
structure Surroundings (σ F : Type) where
  devices : Devices (StateM σ) F
  log : Level → String → StateM σ Unit
  elapsed : StateM σ Duration
  timestamp : StateM σ Timestamp
  /-- How many requests are made before the next thing happens. -/
  requests : StateM σ Nat
  /-- How many requests are made while the listener waits until a moment. -/
  wait : Duration → StateM σ Nat

/-- The memory of the surroundings, what has happened, and the requests. -/
structure Scene (σ F : Type) where
  memory : σ
  past : List (Happening F)
  shutdown : Shutdown

variable {σ F : Type}

/-- Nothing has happened yet. -/
def Scene.opening (memory : σ) : Scene σ F := ⟨memory, [], .quiet⟩

/-- Actions in given surroundings that are written down. -/
def Recorded (_ : Surroundings σ F) : Type → Type := StateM (Scene σ F)

variable {w : Surroundings σ F} {α β : Type}

instance : Monad (Recorded w) := inferInstanceAs (Monad (StateM (Scene σ F)))

namespace Recorded

/-- The result of an action from a scene, and the scene afterwards. -/
def run (x : Recorded w α) (s : Scene σ F) : α × Scene σ F := StateT.run (m := Id) x s

theorem run_bind (x : Recorded w α) (f : α → Recorded w β) (s : Scene σ F) :
    (x >>= f).run s = (f (x.run s).1).run (x.run s).2 := rfl

/-- Requests are made. -/
def arrive : Recorded w Unit := fun s =>
  let (n, memory) := w.requests s.memory
  ((), { memory, past := s.past ++ .replicate n .request, shutdown := Shutdown.trigger^[n] s.shutdown })

/-- Something is done, with an entry that depends on its result. -/
def perform (act : StateM σ α) (entry : α → List (Happening F)) : Recorded w α := do
  arrive
  fun s =>
    let (a, memory) := act s.memory
    (a, { s with memory, past := s.past ++ entry a })

/-- A device is called. -/
def call (act : StateM σ α) (call : α → DeviceCall F) : Recorded w α :=
  perform act fun a => [.call (call a)]

/-- Something is done that is not written down. -/
def aside (act : StateM σ α) : Recorded w α := perform act fun _ => []

instance : MonadLog (Recorded w) where
  log level text := aside (w.log level text)

instance : MonadClock (Recorded w) where
  elapsed := aside w.elapsed
  timestamp := aside w.timestamp

/-- The devices of the surroundings. -/
def devices (w : Surroundings σ F) : Devices (Recorded w) F where
  source :=
    { acquire := call w.devices.source.acquire .acquire
      release := fun frame => call (w.devices.source.release frame) fun _ => .release frame
      adaptRate := fun spent => call (w.devices.source.adaptRate spent) fun _ => .adaptRate spent
      flush := call w.devices.source.flush fun _ => .flush }
  model :=
    { preprocess := fun frame => call (w.devices.model.preprocess frame) (.preprocess frame)
      infer := fun frame => call (w.devices.model.infer frame) (.infer frame)
      output := fun index => call (w.devices.model.output index) (.output index) }
  overlay :=
    { clear := call w.devices.overlay.clear fun _ => .clear
      rectangle := fun corners =>
        call (w.devices.overlay.rectangle corners) fun _ => .rectangle corners
      commit := call w.devices.overlay.commit fun _ => .commit }
  notifier :=
    { declare := call w.devices.notifier.declare fun _ => .declare
      notify := fun event => call (w.devices.notifier.notify event) fun _ => .notify event
      undeclare := call w.devices.notifier.undeclare fun _ => .undeclare }

/-- A listener to the requests.  Only its look at the head of a cycle is written down. -/
def listener (w : Surroundings σ F) : Listener (Recorded w) where
  isTriggered := do
    arrive
    fun s =>
      let (triggered, shutdown) := s.shutdown.isTriggered
      (triggered, { s with past := s.past ++ [.look], shutdown })
  waitUntil deadline := do
    arrive
    fun s =>
      let (n, memory) := w.wait deadline s.memory
      let (triggered, shutdown) := s.shutdown.wait n
      (triggered, { memory, past := s.past ++ .replicate n .request, shutdown })

end Recorded

/-- Devices that never fail: a source that counts its frames down, and a model whose only output is one
tensor. -/
def Surroundings.steady (tensor : ByteArray) : Surroundings Nat Nat where
  devices :=
    { source :=
        { acquire := modifyGet fun
            | 0 => (none, 0)
            | left + 1 => (some left, left)
          release := fun _ => pure ()
          adaptRate := fun _ => pure ()
          flush := pure () }
      model := ⟨fun _ => pure (.ok ()), fun _ => pure (.ok ()), fun _ => pure (.ok tensor)⟩
      overlay := ⟨pure (.ok ()), fun _ => pure (.ok ()), pure (.ok ())⟩
      notifier := ⟨pure (.ok ()), fun _ => pure (.ok ()), pure ()⟩ }
  log _ _ := pure ()
  elapsed := pure ⟨0⟩
  timestamp := pure ⟨0⟩
  requests := pure 0
  wait _ := pure 0

end FrameDetect.Cycle
