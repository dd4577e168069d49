import FrameDetect.Detect.Box
import FrameDetect.Image.Canvas
import FrameDetect.Image.Format
import FrameDetect.Log
import FrameDetect.Number.Rounding
import FrameDetect.Overflow
import FrameDetect.Storage
import FrameDetect.Url.Settings

/-!
# Overlays as pictures

An overlay that draws the outlines of its rectangles on a transparent canvas, and writes the canvas to
a file whenever it is committed.
-/

namespace FrameDetect.Publish

open FrameDetect.Detect (Corners)
open FrameDetect.Image (Canvas Outline)
open FrameDetect.Number (ceil32 floor32)
open FrameDetect.Text (readUInt32)
open FrameDetect.Url (SettingFault applySettings numberSetting)

/-- The scheme of URLs for pictures. -/
def pictureScheme : String := "overlay"

/-- What can go wrong with a picture. -/
inductive PictureFault where
  | storage (cause : Storage.Fault)
  /-- The canvas cannot be written to the file. -/
  | image
  | scheme (actual : String)
  | setting (cause : SettingFault)
  /-- There can be no canvas of this size. -/
  | overflow (cause : Overflow)
deriving Repr, DecidableEq

def PictureFault.message : PictureFault → String
  | .storage cause => s!"I/O 错误: {cause.message}"
  | .image => "图像错误: the picture cannot be written"
  | .scheme actual =>
    s!"URI 方案不匹配: 期望保存方式 '{pictureScheme}', 实际保存方式 '{actual}'"
  | .setting cause => cause.message
  | .overflow cause => cause.message

/-- A canvas and the file that it is written to. -/
structure Picture where
  path : String
  canvas : Canvas
deriving DecidableEq

/-- Width and height in a URL. -/
structure PictureSize where
  width : UInt32
  height : UInt32
deriving Repr, DecidableEq

/-- A size that is not given. -/
def PictureSize.default : PictureSize := ⟨640, 640⟩

/-- Applies one setting; none if the name is not known.  The value is read before the name is looked at. -/
def PictureSize.apply (size : PictureSize) (name value : String) :
    Except SettingFault (Option PictureSize) :=
  let number := numberSetting name (readUInt32 value)
  match name with
  | "width" => number.map fun n => some { size with width := n }
  | "height" => number.map fun n => some { size with height := n }
  | _ => .ok none

/-- An integer moved between zero and `last`. -/
def clampPixel (last n : Int) : Nat := (max 0 (min last n)).toNat

/-- The pixels of a rectangle on a canvas with `width` columns and `height` rows, if it has any extent:
the columns and rows that it touches, without the last. -/
def outline? (width height : Nat) (c : Corners) : Option Outline :=
  let w := Float32.ofNat width
  let h := Float32.ofNat height
  let lastColumn := floor32 w - 1
  let lastRow := floor32 h - 1
  let left := clampPixel lastColumn (floor32 (c.left * w))
  let top := clampPixel lastRow (floor32 (c.top * h))
  let right := clampPixel lastColumn (ceil32 (c.right * w))
  let bottom := clampPixel lastRow (ceil32 (c.bottom * h))
  if left < right ∧ top < bottom then some ⟨left, top, right - 1, bottom - 1⟩ else none

namespace Picture

/-- The bytes of a canvas, four for each pixel.  A canvas is at least one pixel wide and high. -/
def bytes (width height : UInt32) : Nat := 4 * max width.toNat 1 * max height.toNat 1

/-- A picture without outlines. -/
def blank (path : String) (width height : UInt32) : Picture :=
  ⟨path, .clear (max width.toNat 1) (max height.toNat 1)⟩

/-- A picture without outlines, if its canvas fits a block of memory. -/
def ofSize (path : String) (width height : UInt32) : Except Overflow Picture :=
  if UInt64.size ≤ bytes width height then .error .picture
  else if greatestBlock < bytes width height then .error .capacity
  else .ok (blank path width height)

theorem ofSize_eq (path : String) (width height : UInt32) :
    ofSize path width height =
      if bytes width height ≤ greatestBlock then .ok (blank path width height)
      else .error (if UInt64.size ≤ bytes width height then .picture else .capacity) := by
  unfold ofSize greatestBlock UInt64.size
  grind

def clear (p : Picture) : Picture := { p with canvas := .clear p.canvas.width p.canvas.height }

/-- Draws the outline of a rectangle, unless it is too small. -/
def rectangle (p : Picture) (corners : Corners) : Picture :=
  match outline? p.canvas.width p.canvas.height corners with
  | some outline => { p with canvas := p.canvas.draw outline }
  | none => p

/-- The format that the name of the file tells. -/
def format? (p : Picture) : Option Image.Format :=
  (Storage.extension? p.path).bind Image.Format.ofExtension?

variable {m : Type → Type} [Monad m] [MonadStorage m]

/-- Writes the canvas to the file.  A name that tells no format leaves the file alone; a format that the
canvas cannot be written in leaves it empty. -/
def commit (p : Picture) : m (Except PictureFault Unit) := do
  match ← makeParent p.path with
  | .error fault => return .error (.storage fault)
  | .ok () =>
    match p.format? with
    | none => return .error .image
    | some format =>
      let encoded? := format.encode? p.canvas.raster
      match ← writeBytes p.path (encoded?.getD .empty) with
      | .error _ => return .error .image
      | .ok () => return if encoded?.isSome then .ok () else .error .image

/-- The picture that a URL describes; its path names the file. -/
def ofUrl [MonadLog m] (url : Url) : m (Except PictureFault Picture) := do
  if url.scheme ≠ pictureScheme then return .error (.scheme url.scheme)
  let unknown (name value : String) : m Unit := logWarn s!"忽略未知参数: {name}={value}"
  match ← applySettings PictureSize.apply unknown .default url.settings with
  | .error fault => return .error (.setting fault)
  | .ok size => return (ofSize url.path size.width size.height).mapError .overflow

end Picture

end FrameDetect.Publish
