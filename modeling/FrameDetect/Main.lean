import Std.Async.Signal
import Std.Time
import FrameDetect.Program.Command

/-!
# Command line

The two programs on a computer: `oneshot` runs one cycle, and `periodic` repeats cycles until a signal
asks it to stop.
-/

namespace FrameDetect.Terminal

open FrameDetect.Cycle (Detector)
open FrameDetect.Program (Exit Host HostT)
open FrameDetect.Run (Listener Periodic Summary)
open FrameDetect.Time (Duration Timestamp)

/-- The levels that are shown, given the value of the variable `FRAME_DETECT_LOG`. -/
def shownLevels : Option String → List Level
  | some "info" => [.info, .warn, .error]
  | some "warn" => [.warn, .error]
  | some "off" => []
  | _ => [.error]

instance : MonadLog IO where
  log level text := do
    if (shownLevels (← IO.getEnv "FRAME_DETECT_LOG")).contains level then
      IO.eprintln s!"{level.name} {text}"

/-- A fault of the file system. -/
def storageFault : IO.Error → Storage.Fault
  | .noFileOrDirectory _ _ _ => .notFound
  | .inappropriateType _ 20 _ => .notADirectory
  | .inappropriateType _ 21 _ => .isADirectory
  | .alreadyExists _ _ _ => .alreadyExists
  | .invalidArgument _ 22 _ => .invalidName
  | .invalidArgument _ _ "name too long" => .nameTooLong
  | error => .other (toString error)

/-- Takes what the file system reports as a fault. -/
def attempt {α : Type} (action : IO α) : IO (Except Storage.Fault α) :=
  try return .ok (← action) catch error => return .error (storageFault error)

instance : MonadStorage IO where
  readBytes path := attempt (IO.FS.readBinFile path)
  writeBytes path bytes := attempt (IO.FS.writeBinFile path bytes)
  appendBytes path bytes := attempt (IO.FS.withFile path .append (·.write bytes))
  makeDirectories path := attempt (IO.FS.createDirAll path)

instance : MonadClock IO where
  elapsed := do return ⟨← IO.monoNanosNow⟩
  timestamp := do
    return ⟨(← Std.Time.Timestamp.now).toNanosecondsSinceUnixEpoch.val.toNat⟩

/-- Waits for a signal, which the log tells. -/
def awaitSignal (signal : Std.Async.Signal) : IO (Task (Except IO.Error Unit)) := do
  let waiter ← Std.Async.Signal.Waiter.mk signal false
  IO.mapTask (fun _ => logInfo "收到中断信号，准备退出...") (← waiter.wait)

/-- Whether one of some tasks is done. -/
def isAnyDone (requests : List (Task (Except IO.Error Unit))) : IO Bool :=
  requests.anyM fun request => IO.hasFinished request

/-- Sleeps in short stretches until a moment, or until a task is done; whether one is. -/
partial def sleepUntil (requests : List (Task (Except IO.Error Unit))) (deadline : Duration) :
    IO Bool := do
  if ← isAnyDone requests then return true
  let now ← IO.monoNanosNow
  if deadline.nanoseconds ≤ now then return false
  IO.sleep (min 20 ((deadline.nanoseconds - now) / 1000000 + 1)).toUInt32
  sleepUntil requests deadline

/-- Notices the tasks that are done. -/
def listener (requests : List (Task (Except IO.Error Unit))) : Listener (HostT IO) where
  isTriggered := isAnyDone requests
  waitUntil deadline := sleepUntil requests deadline

/-- Takes steps of a run until it ends. -/
partial def takeSteps (run : Periodic) (requests : Listener (HostT IO)) (state : Periodic.State) :
    HostT IO Periodic.Result := do
  match ← run.step Host.devices requests state with
  | .inl state => takeSteps run requests state
  | .inr result => return result

/-- Runs cycles at intervals. -/
def drive (requests : Listener (HostT IO)) (run : Periodic) (detector : Detector) :
    HostT IO (Except Run.Fault Summary × Detector) := do
  let state ← run.start Host.devices detector
  Periodic.finish Host.devices (← takeSteps run requests state)

/-- The program of a command line. -/
def program : List String → IO Exit
  | "oneshot" :: words => Program.oneShot words
  | "periodic" :: words => do
    let requests ← [.sigint, .sigterm, .sighup].mapM awaitSignal
    Program.periodic (drive (listener requests)) words
  | _ => return ⟨2, "", "usage: (oneshot | periodic) OPTIONS\n"⟩

end FrameDetect.Terminal

/-- Runs a program, and ends with its exit code. -/
def main (words : List String) : IO UInt32 := do
  let exit ← FrameDetect.Terminal.program words
  IO.print exit.output
  IO.eprint exit.errors
  return exit.code.toUInt32
