import FrameDetect.Storage.Fault
import FrameDetect.Text.Blank
import FrameDetect.Text.Lines

/-!
# Labels

The names of a model's classes, by their index.  A label file holds one name on each line; blank
characters around a name and blank lines do not count.
-/

namespace FrameDetect

open FrameDetect.Text (isBlank lines trimBlank)

/-- The names of classes. -/
structure Labels where
  names : Array String
deriving Repr, DecidableEq

/-- What is wrong with labels. -/
inductive LabelFault where
  | storage (cause : Storage.Fault)
  | tooFew (classes labels : Nat)
deriving Repr, DecidableEq

def LabelFault.message : LabelFault → String
  | .storage cause => s!"读取标签文件失败: {cause.message}"
  | .tooFew classes labels => s!"标签数量不足: 模型有 {classes} 个类别, 标签只有 {labels} 个"

namespace Labels

/-- The labels in a text. -/
def ofText (text : String) : Labels :=
  let names := ((lines text.toList).map trimBlank).filter fun name => !name.isEmpty
  ⟨(names.map String.ofList).toArray⟩

/-- The number of names. -/
def size (labels : Labels) : Nat := labels.names.size

/-- The name of a class. -/
def get? (labels : Labels) (index : Nat) : Option String := labels.names[index]?

/-- Checks that there is a name for each class. -/
def ensureCovers (labels : Labels) (classes : Nat) : Except LabelFault Unit :=
  if labels.size < classes then .error (.tooFew classes labels.size) else .ok ()

/-- The classes of the COCO data set. -/
def coco : Labels := ⟨#[
  "person", "bicycle", "car", "motorcycle", "airplane", "bus", "train", "truck", "boat",
  "traffic light", "fire hydrant", "stop sign", "parking meter", "bench", "bird", "cat", "dog",
  "horse", "sheep", "cow", "elephant", "bear", "zebra", "giraffe", "backpack", "umbrella",
  "handbag", "tie", "suitcase", "frisbee", "skis", "snowboard", "sports ball", "kite",
  "baseball bat", "baseball glove", "skateboard", "surfboard", "tennis racket", "bottle",
  "wine glass", "cup", "fork", "knife", "spoon", "bowl", "banana", "apple", "sandwich", "orange",
  "broccoli", "carrot", "hot dog", "pizza", "donut", "cake", "chair", "couch", "potted plant",
  "bed", "dining table", "toilet", "tv", "laptop", "mouse", "remote", "keyboard", "cell phone",
  "microwave", "oven", "toaster", "sink", "refrigerator", "book", "clock", "vase", "scissors",
  "teddy bear", "hair drier", "toothbrush"]⟩

end Labels

end FrameDetect
