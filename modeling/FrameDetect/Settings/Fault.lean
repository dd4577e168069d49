import FrameDetect.Decimal.Style
import FrameDetect.Json.Fault
import FrameDetect.Storage.Fault

/-!
# Faults of the settings

The two thresholds by name, and what can be wrong with them or with a file of device parameters.
-/

namespace FrameDetect.Settings

open FrameDetect.Decimal (messageStyle)

/-- A threshold that decides which rows are published. -/
inductive Threshold where
  /-- The least objectness. -/
  | confidence
  /-- The greatest overlap of two rows. -/
  | overlap
deriving Repr, DecidableEq

/-- What a threshold is called in messages. -/
def Threshold.title : Threshold → String
  | .confidence => "置信度阈值"
  | .overlap => "交并比阈值"

/-- The device parameter that holds the threshold as a whole percentage. -/
def Threshold.parameter : Threshold → String
  | .confidence => "ConfThresholdPercent"
  | .overlap => "IouThresholdPercent"

/-- What is wrong with the settings. -/
inductive Fault where
  | storage (cause : Storage.Fault)
  | json (cause : Json.Fault)
  | notAnObject
  | missing (name : String)
  | notAnInteger (name value : String)
  | outOfRange (threshold : Threshold) (value : Float32)
deriving DecidableEq

def Fault.message : Fault → String
  | .storage cause => s!"读取参数文件失败: {cause.message}"
  | .json cause => s!"参数文件格式错误: {cause.message}"
  | .notAnObject => "参数文件顶层必须是对象"
  | .missing name => s!"缺少参数 {name}"
  | .notAnInteger name value => s!"参数 {name} 不是整数: {value}"
  | .outOfRange threshold value =>
    s!"{threshold.title} 必须在 [0, 1] 范围内, 实际为 {messageStyle.single value}"

end FrameDetect.Settings
