import FrameDetect.Cycle.Run
import FrameDetect.Run.Shutdown

/-!
# Rehearsals

Devices that follow a script: what they deliver and which calls fail is laid down beforehand, and every
call is remembered in order, with the log lines between them.  Frames are their numbers.
-/

namespace FrameDetect.Cycle

open FrameDetect.Detect (Corners)
open FrameDetect.Publish (Event)
open FrameDetect.Run (Listener Shutdown)
open FrameDetect.Time (Duration)

/-- A method of the overlay or of the notifier. -/
inductive SinkMethod where
  | clear
  | rectangle
  | commit
  | declare
  | notify
  | undeclare
deriving Repr, DecidableEq

def SinkMethod.name : SinkMethod → String
  | .clear => "clear"
  | .rectangle => "rectangle"
  | .commit => "commit"
  | .declare => "declare"
  | .notify => "notify"
  | .undeclare => "undeclare"

/-- What happened on a device or in the log. -/
inductive Call where
  | acquire (frame : Option Nat)
  | release (frame : Nat)
  | flush
  | adaptRate
  | preprocess (frame : Nat)
  | infer (frame : Nat)
  | output (index : Nat)
  | clear
  | rectangle (corners : Corners)
  | commit
  | declare
  | notify (event : Event)
  | undeclare
  | line (level : Level) (text : String)
deriving DecidableEq

/-- How devices behave.  A step that fails has a reason. -/
structure Script where
  /-- The frames until the stream is lost. -/
  frames : Option Nat
  /-- Why the model fails to prepare a frame. -/
  preprocess : Nat → Option String
  /-- Why the model fails to run on a frame. -/
  infer : Nat → Option String
  /-- The tensor after a frame. -/
  output : Nat → Except String ByteArray
  /-- Why the call of a method with this number fails. -/
  sink : SinkMethod → Nat → Option String
  /-- The frame whose release makes a request to shut down. -/
  stopAt : Option Nat

/-- How often methods were called. -/
abbrev Counts := List (SinkMethod × Nat)

/-- The calls of a method. -/
def Counts.of (counts : Counts) (method : SinkMethod) : Nat := (counts.lookup method).getD 0

/-- Counts a call of a method. -/
def Counts.add (method : SinkMethod) : Counts → Counts
  | [] => [(method, 1)]
  | (other, n) :: rest =>
    if other = method then (other, n + 1) :: rest else (other, n) :: add method rest

/-- Devices in the course of a script. -/
structure Rehearsal where
  script : Script
  /-- The calls so far, the first one first. -/
  calls : Array Call
  /-- The frames that were acquired. -/
  acquired : Nat
  /-- The frame that the model has worked on. -/
  current : Nat
  /-- The frames that the model was asked to prepare or to run on. -/
  modelCalls : Nat
  /-- How often each method of the sinks was called. -/
  sinkCalls : Counts
  shutdown : Shutdown
  time : Duration

namespace Rehearsal

/-- Before the first call. -/
def ofScript (script : Script) : Rehearsal :=
  { script, calls := #[], acquired := 0, current := 0, modelCalls := 0, sinkCalls := []
    shutdown := .quiet, time := ⟨0⟩ }

/-- Remembers a call. -/
def remember (call : Call) : StateM Rehearsal Unit :=
  modify fun r => { r with calls := r.calls.push call }

instance : MonadLog (StateM Rehearsal) where
  log level text := remember (.line level text)

instance : MonadClock (StateM Rehearsal) where
  elapsed := do return (← get).time
  timestamp := pure ⟨0⟩

/-- A failure for a reason, or none. -/
def outcome : Option String → Except String Unit
  | some reason => .error reason
  | none => .ok ()

def source : Video.Source (StateM Rehearsal) Nat where
  acquire := do
    let r ← get
    if r.script.frames.any (· ≤ r.acquired) then
      remember (.acquire none)
      return none
    set { r with acquired := r.acquired + 1 }
    remember (.acquire (some r.acquired))
    return some r.acquired
  release frame := do
    remember (.release frame)
    modify fun r =>
      if r.script.stopAt = some frame then { r with shutdown := r.shutdown.trigger } else r
  adaptRate _ := remember .adaptRate
  flush := remember .flush

/-- A step of the model on a frame. -/
def modelStep (call : Call) (frame : Nat) (reason : Script → Nat → Option String) :
    StateM Rehearsal (Except String Unit) := do
  remember call
  modify fun r => { r with current := frame, modelCalls := r.modelCalls + 1 }
  return outcome (reason (← get).script frame)

def model : Inference.Model (StateM Rehearsal) Nat where
  preprocess frame := modelStep (.preprocess frame) frame Script.preprocess
  infer frame := modelStep (.infer frame) frame Script.infer
  output index := do
    remember (.output index)
    let r ← get
    return r.script.output r.current

/-- A call of a method of the sinks. -/
def sinkStep (call : Call) (method : SinkMethod) : StateM Rehearsal (Except String Unit) := do
  remember call
  let r ← get
  set { r with sinkCalls := r.sinkCalls.add method }
  return outcome (r.script.sink method (r.sinkCalls.of method))

def overlay : Publish.Overlay (StateM Rehearsal) where
  clear := sinkStep .clear .clear
  rectangle corners := sinkStep (.rectangle corners) .rectangle
  commit := sinkStep .commit .commit

def notifier : Publish.Notifier (StateM Rehearsal) where
  declare := sinkStep .declare .declare
  notify event := sinkStep (.notify event) .notify
  undeclare := do let _ ← sinkStep .undeclare .undeclare

/-- All devices together. -/
def devices : Devices (StateM Rehearsal) Nat := ⟨source, model, overlay, notifier⟩

/-- Requests as they were made; waiting takes no more than the time until the deadline. -/
def listener : Listener (StateM Rehearsal) where
  isTriggered := modifyGet fun r =>
    let (triggered, shutdown) := r.shutdown.isTriggered
    (triggered, { r with shutdown })
  waitUntil deadline := modifyGet fun r =>
    let (triggered, shutdown) := r.shutdown.wait 0
    let time := if triggered then r.time else ⟨max r.time.nanoseconds deadline.nanoseconds⟩
    (triggered, { r with shutdown, time })

/-- The calls of some methods. -/
def countCalls (r : Rehearsal) (methods : List SinkMethod) : Nat :=
  methods.foldl (fun n method => n + r.sinkCalls.of method) 0

end Rehearsal

end FrameDetect.Cycle
