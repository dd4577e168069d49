import FrameDetect.Program.Report
import FrameDetect.Program.Start
import FrameDetect.Run.OneShot
import FrameDetect.Run.Periodic

/-!
# Programs

The two programs from their command line to their exit: one cycle whose detections are printed, and
cycles at intervals.
-/

namespace FrameDetect.Program

open FrameDetect.Cycle (Detector Devices)
open FrameDetect.Run (Periodic Summary)
open FrameDetect.Video (Frame)

/-- What a program leaves behind: an exit code, and what it prints. -/
structure Exit where
  code : UInt8
  output : String
  errors : String
deriving Repr, DecidableEq

/-- The end of a program that did what it was asked. -/
def Exit.success (output : String) : Exit := ⟨0, output, ""⟩

/-- The end of a program that failed. -/
def Exit.failure (message : String) : Exit := ⟨1, "", s!"Error: {message}\n"⟩

/-- The end of a program that breaks off. -/
def Exit.broken (message : String) : Exit := ⟨101, "", s!"{message}\n"⟩

/-- The end of a program that cannot start. -/
def Exit.ofStartFault : StartFault → Exit
  | .output (.picture (.overflow cause)) => .broken cause.message
  | fault => .failure fault.message

/-- The end of a program whose run has no summary. -/
def Exit.ofRunFault : Run.Fault → Exit
  | .cycle (.broken cause) => .broken cause.message
  | .overflow cause => .broken cause.message
  | fault => .failure fault.message

/-- The name and the version of the programs. -/
def versionText : String := "shanan-yolov5 0.1.0\n"

/-- What can be given on the command line. -/
def Usage.text (usage : Usage) : String :=
  "Options:\n" ++ String.join (usage.flags.map fun flag => s!"  --{flag.name} <value>\n")

/-- The end of a program whose command line is not carried out. -/
def UsageFault.exit (usage : Usage) : UsageFault → Exit
  | .help => .success usage.text
  | .version => .success versionText
  | .unknown => ⟨2, "", "error: unexpected argument found\n"⟩
  | .invalidValue => ⟨2, "", "error: invalid value\n"⟩
  | .unreadable => ⟨2, "", "error: invalid value\n"⟩
  | .missing => ⟨2, "", "error: a required option is missing\n"⟩
  | .repeated => ⟨2, "", "error: an option cannot be used multiple times\n"⟩
  | .surplusValue => ⟨2, "", "error: unexpected value\n"⟩

variable {m : Type → Type} [Monad m] [MonadLog m] [MonadStorage m]

/-- Starts up from a command line and goes on with devices and detector. -/
def launch (usage : Usage) (words : List String) (body : Options → Detector → HostT m Exit) :
    m Exit := do
  match Options.read usage words with
  | .error fault => return fault.exit usage
  | .ok options =>
    match ← (options.start : ExceptT StartFault m _).run with
    | .error fault => return .ofStartFault fault
    | .ok (host, detector) =>
      match ← ((body options detector).run host).run with
      | .error cause => return .broken cause.message
      | .ok (exit, _) => return exit

/-- The program that runs one cycle and prints what it detects. -/
def oneShot [MonadClock m] (words : List String) : m Exit :=
  launch .oneShot words fun _ detector => do
    match ← Run.OneShot.run Host.devices detector with
    | (.error fault, _) => return .ofRunFault fault
    | (.ok summary, detector) =>
      return .success (reportText detector.labels summary.last ++ "\n")

/-- When cycles are to be run. -/
def Options.schedule (o : Options) : Periodic where
  period := match o.period with
    | some n => .ofMilliseconds n.toNat
    | none => Run.defaultPeriod
  maxCycles := o.maxCycles

/-- The program that runs cycles at intervals.  How they are repeated is left to `drive`. -/
def periodic (drive : Periodic → Detector → HostT m (Except Run.Fault Summary × Detector))
    (words : List String) : m Exit :=
  launch .periodic words fun options detector => do
    match ← drive options.schedule detector with
    | (.error fault, _) => return .ofRunFault fault
    | (.ok summary, _) =>
      if summary.sourceLost then logInfo "采集流已丢失，正常退出"
      return .success ""

end FrameDetect.Program
