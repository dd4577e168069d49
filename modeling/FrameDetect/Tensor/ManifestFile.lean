import FrameDetect.Log
import FrameDetect.Storage
import FrameDetect.Tensor.ManifestText

/-!
# Manifest files

A layout from the file of a manifest, and what the log tells of it.
-/

namespace FrameDetect.Tensor

open FrameDetect.Decimal (messageStyle)

/-- Why a file gives no layout. -/
inductive ManifestFault where
  | storage (cause : Storage.Fault)
  | json (cause : Json.Fault)
  | layout (cause : LayoutFault)
deriving DecidableEq

def ManifestFault.message : ManifestFault → String
  | .storage cause => s!"读取模型清单失败: {cause.message}"
  | .json cause => s!"模型清单格式错误: {cause.message}"
  | .layout cause => cause.message

/-- The layout of the manifest in a text. -/
def Layout.ofText (text : String) : Except ManifestFault Layout := do
  let manifest ← (Manifest.read text).mapError .json
  (Layout.ofManifest manifest).mapError .layout

/-- What the log tells of a layout. -/
def Layout.lines (l : Layout) : List String :=
  [s!"模型输入尺寸: {l.inputWidth} x {l.inputHeight}",
    s!"量化系数: {messageStyle.single l.quantization.scale}",
    s!"量化零点: {messageStyle.single l.quantization.zeroPoint}",
    s!"类别数量: {l.classes}",
    s!"检测数量: {l.rows}"]

/-- The layout of the manifest in a file. -/
def Layout.load {m : Type → Type} [Monad m] [MonadLog m] [MonadStorage m] (path : String) :
    m (Except ManifestFault Layout) := do
  match ← readText path with
  | .error fault => return .error (.storage fault)
  | .ok text =>
    match Layout.ofText text with
    | .error fault => return .error fault
    | .ok layout =>
      layout.lines.forM logInfo
      return .ok layout

end FrameDetect.Tensor
