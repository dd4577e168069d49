import FrameDetect.Program.Host
import FrameDetect.Program.Options
import FrameDetect.Settings.ParameterFile
import FrameDetect.Tensor.ManifestFile

/-!
# Starting up

Devices and detector from the options.  Files are read and devices opened in a fixed order, and the
first fault ends it.
-/

namespace FrameDetect.Program

open FrameDetect.Cycle (Detector)
open FrameDetect.Decimal (fixed)
open FrameDetect.Inference (Replay ReplayFault)
open FrameDetect.Publish (EventOutput OutputFault OverlayOutput)
open FrameDetect.Settings (ParameterFile Threshold Thresholds)
open FrameDetect.Tensor (Layout ManifestFault)
open FrameDetect.Video (Synthetic SyntheticFault)

/-- Why the program cannot start. -/
inductive StartFault where
  | manifest (cause : ManifestFault)
  | settings (cause : Settings.Fault)
  | source (cause : SyntheticFault)
  | model (cause : ReplayFault)
  | output (cause : OutputFault)
  | labels (cause : LabelFault)
  | cycle (cause : Cycle.Fault)
deriving DecidableEq

def StartFault.message : StartFault → String
  | .manifest cause => cause.message
  | .settings cause => cause.message
  | .source cause => cause.message
  | .model cause => cause.message
  | .output cause => cause.message
  | .labels cause => cause.message
  | .cycle cause => cause.message

variable {m : Type → Type} [Monad m] [MonadLog m] [MonadStorage m]

/-- The parameters in a file. -/
def loadParameters (path : String) : m (Except Settings.Fault ParameterFile) := do
  logInfo s!"读取参数文件: {path}"
  match ← readText path with
  | .error fault => return .error (.storage fault)
  | .ok text => return ParameterFile.ofText text

/-- An integer parameter, which the log tells. -/
def loadInteger (file : ParameterFile) (name : String) : m (Except Settings.Fault Int) := do
  let result := file.integer name
  if let .ok n := result then logInfo s!"参数 {name}: {n}"
  return result

/-- The thresholds in a file of parameters. -/
def loadThresholds (path : String) : m (Except Settings.Fault Thresholds) := do
  match ← loadParameters path with
  | .error fault => return .error fault
  | .ok file =>
    match ← loadInteger file Threshold.confidence.parameter with
    | .error fault => return .error fault
    | .ok confidence =>
      match ← loadInteger file Threshold.overlap.parameter with
      | .error fault => return .error fault
      | .ok overlap => return Thresholds.ofPercent confidence overlap

/-- The thresholds where nothing else is given. -/
def defaultThresholds : Except Settings.Fault Thresholds := Thresholds.ofNumbers 0.5 0.45

/-- Thresholds of which those that are given replace others. -/
def Options.override (o : Options) (base : Thresholds) : Except Settings.Fault Thresholds :=
  Thresholds.ofNumbers (o.confidence.getD base.confidence) (o.overlap.getD base.overlap)

/-- The thresholds: those given as options, else those of the parameter file, else the default. -/
def Options.thresholds (o : Options) : m (Except Settings.Fault Thresholds) := do
  let base ← match o.params with
    | some path => loadThresholds path
    | none => pure defaultThresholds
  return base.bind o.override

/-- The labels in a file. -/
def loadLabels (path : String) : m (Except LabelFault Labels) := do
  match ← readText path with
  | .error fault => return .error (.storage fault)
  | .ok text =>
    let labels := Labels.ofText text
    logInfo s!"从 {path} 读取到 {labels.size} 个标签"
    return .ok labels

/-- The labels: those of the label file, else those of the COCO data set. -/
def Options.labelTable (o : Options) : m (Except LabelFault Labels) :=
  match o.labels with
  | some path => loadLabels path
  | none => return .ok Labels.coco

/-- Devices and detector, ready for the first cycle. -/
def Options.start (o : Options) : ExceptT StartFault m (Host × Detector) := do
  logInfo s!"模型输出来源: {o.model.text}"
  logInfo s!"输入来源: {o.input.text}"
  logInfo s!"叠加层输出: {o.overlay.text}"
  logInfo s!"事件输出: {o.events.text}"
  let layout ← ofFault .manifest (Layout.load o.modelParams)
  let thresholds ← ofFault .settings o.thresholds
  logInfo (s!"阈值: 置信度 {fixed 2 thresholds.confidence}, " ++
    s!"交并比 {fixed 2 thresholds.overlap}")
  let source ← ofFault .source (Synthetic.ofUrl o.input)
  let model ← ofFault .model (Replay.ofUrl o.model)
  let overlay ← ofFault .output (OverlayOutput.ofUrl o.overlay)
  let events ← ofFault .output (pure (EventOutput.ofUrl o.events))
  let labels ← ofFault .labels o.labelTable
  let detector ← ofFault .cycle (pure (Detector.ofSettings layout labels thresholds o.tieBreak))
  return ({ source, model, overlay, events }, detector)
where
  /-- An action whose fault is one of starting up. -/
  ofFault {ε α : Type} (fault : ε → StartFault) (action : m (Except ε α)) : ExceptT StartFault m α :=
    ExceptT.mk do return (← action).mapError fault

end FrameDetect.Program
