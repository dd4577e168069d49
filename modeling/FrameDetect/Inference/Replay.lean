import FrameDetect.Log
import FrameDetect.Storage
import FrameDetect.Url.Settings
import FrameDetect.Video.Frame

/-!
# Replayed tensors

In place of a model, a tensor that was recorded before is the output of every frame.  To try how the
program copes, every so many runs can be made to fail.
-/

namespace FrameDetect.Inference

open FrameDetect.Text (readUInt64)
open FrameDetect.Url (SettingFault applySettings numberSetting)
open FrameDetect.Video (Frame)

/-- The scheme of its URLs. -/
def replayScheme : String := "tensor"

/-- What can go wrong with a replay. -/
inductive ReplayFault where
  | storage (cause : Storage.Fault)
  | scheme (actual : String)
  | setting (cause : SettingFault)
  | emptyFrame
  | injected (run : UInt64)
  | noSuchOutput (index : Nat)
deriving Repr, DecidableEq

def ReplayFault.message : ReplayFault → String
  | .storage cause => s!"张量文件读取错误: {cause.message}"
  | .scheme actual => s!"URI 方案不匹配: 期望 '{replayScheme}', 实际 '{actual}'"
  | .setting cause => cause.message
  | .emptyFrame => "输入帧为空"
  | .injected run => s!"第 {run} 次推理被注入失败"
  | .noSuchOutput index => s!"不存在第 {index} 个输出张量"

/-- A recorded tensor, and how many times it has been asked for. -/
structure Replay where
  tensor : ByteArray
  /-- Every run whose number is a multiple of this fails. -/
  failEvery : Option UInt64
  runs : UInt64

namespace Replay

/-- A replay that has not run.  To fail every zero runs is to fail never. -/
def ofTensor (tensor : ByteArray) (failEvery : Option UInt64) : Replay :=
  { tensor, failEvery := failEvery.filter (0 < ·), runs := 0 }

/-- Checks a frame before it is run on. -/
def preprocess (frame : Frame) : Except ReplayFault Unit :=
  if frame.data.size = 0 then .error .emptyFrame else .ok ()

/-- Counts a run, which may fail. -/
def infer (r : Replay) : Except Overflow (Except ReplayFault Unit × Replay) := do
  let runs ← addChecked r.runs 1
  let fails := match r.failEvery with
    | some n => runs % n == 0
    | none => false
  return (if fails then .error (.injected runs) else .ok (), { r with runs })

/-- The only output is the tensor. -/
def output (r : Replay) (index : Nat) : Except ReplayFault ByteArray :=
  if index = 0 then .ok r.tensor else .error (.noSuchOutput index)

/-- Applies the one setting there is. -/
def applySetting (failEvery : Option UInt64) (name value : String) :
    Except SettingFault (Option (Option UInt64)) :=
  match name with
  | "fail_every" => (numberSetting name (readUInt64 value)).map fun n => some (some n)
  | _ => .ok (some failEvery)

variable {m : Type → Type} [Monad m] [MonadLog m]

/-- The replay that a URL describes; its path names the file of the tensor. -/
def ofUrl [MonadStorage m] (url : Url) : m (Except ReplayFault Replay) := do
  if url.scheme ≠ replayScheme then return .error (.scheme url.scheme)
  match ← applySettings applySetting (fun _ _ => pure ()) none url.settings with
  | .error fault => return .error (.setting fault)
  | .ok failEvery =>
    logInfo s!"加载张量文件: {url.path}"
    match ← readBytes url.path with
    | .error fault => return .error (.storage fault)
    | .ok tensor => return .ok (ofTensor tensor failEvery)

/-- Runs on a frame; a failure is reported. -/
def run (r : Replay) (frame : Frame) : m (Except Overflow (Except ReplayFault Unit × Replay)) := do
  if let .ok (.error _, _) := r.infer then logWarn s!"第 {frame.sequence} 帧推理注入失败"
  return r.infer

end Replay

end FrameDetect.Inference
