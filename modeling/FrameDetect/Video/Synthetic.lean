import FrameDetect.Log
import FrameDetect.Number.Rounding
import FrameDetect.Time.Duration
import FrameDetect.Url.Settings
import FrameDetect.Video.Frame

/-!
# Synthetic frames

A source of black frames, to run the program where there is no camera.  It may be limited to a number
of frames, after which it is exhausted.
-/

namespace FrameDetect.Video

open FrameDetect.Text (readUInt32 readUInt64)
open FrameDetect.Time (Duration)
open FrameDetect.Url (SettingFault applySettings numberSetting)

/-- The scheme of its URLs. -/
def syntheticScheme : String := "stub"

/-- Why a URL describes no synthetic source. -/
inductive SyntheticFault where
  | scheme (actual : String)
  | setting (cause : Url.SettingFault)
deriving Repr, DecidableEq

def SyntheticFault.message : SyntheticFault → String
  | .scheme actual => s!"URI 方案不匹配: 期望 '{syntheticScheme}', 实际 '{actual}'"
  | .setting cause => cause.message

/-- The size, the format and the number of frames. -/
structure SyntheticSettings where
  width : UInt32
  height : UInt32
  format : PixelFormat
  limit : Option UInt64
deriving Repr, DecidableEq

/-- Settings that are not given. -/
def SyntheticSettings.default : SyntheticSettings := ⟨640, 640, .nv12, none⟩

/-- The pixel format of a name. -/
def PixelFormat.ofName? : String → Option PixelFormat
  | "nv12" | "yuv" => some .nv12
  | "rgb" => some .rgb
  | _ => none

/-- Applies one setting; none if the name is not known. -/
def SyntheticSettings.apply (settings : SyntheticSettings) (name value : String) :
    Except SettingFault (Option SyntheticSettings) :=
  match name with
  | "width" => (numberSetting name (readUInt32 value)).map fun n => some { settings with width := n }
  | "height" => (numberSetting name (readUInt32 value)).map fun n => some { settings with height := n }
  | "frames" =>
    (numberSetting name (readUInt64 value)).map fun n => some { settings with limit := some n }
  | "format" =>
    match PixelFormat.ofName? value with
    | some format => .ok (some { settings with format })
    | none => .error ⟨name, value⟩
  | _ => .ok none

/-- A source of black frames. -/
structure Synthetic where
  width : UInt32
  height : UInt32
  format : PixelFormat
  /-- The frames that are left, if they are limited. -/
  remaining : Option UInt64
  /-- The number of the next frame. -/
  next : UInt64
  /-- The frames that have not been released. -/
  outstanding : UInt64
  /-- The frames each second that the source aims at. -/
  rate : Float

/-- The greatest number of frames each second. -/
def greatestRate : Float := 30

namespace Synthetic

/-- A source that has delivered no frame yet. -/
def ofSettings (s : SyntheticSettings) : Synthetic :=
  { width := s.width, height := s.height, format := s.format, remaining := s.limit
    next := 0, outstanding := 0, rate := greatestRate }

/-- The next frame, unless the source is exhausted.  Its number is counted before there is memory for it. -/
def acquire (s : Synthetic) : Except Overflow (Option (Frame × Synthetic)) := do
  if s.remaining = some 0 then return none
  let next ← addChecked s.next 1
  let outstanding ← addChecked s.outstanding 1
  let frame ← Frame.blank s.next s.width s.height s.format
  return some (frame, { s with remaining := s.remaining.map (· - 1), next, outstanding })

/-- Takes a frame back. -/
def release (s : Synthetic) : Synthetic :=
  if s.outstanding = 0 then s else { s with outstanding := s.outstanding - 1 }

/-- A duration in seconds. -/
def seconds (d : Duration) : Float :=
  (UInt64.ofNat (d.nanoseconds / 1000000000)).toFloat +
    (UInt32.ofNat (d.nanoseconds % 1000000000)).toFloat / 1000000000

/-- The rate at which frames that take so long can be handled. -/
def rateFor (d : Duration) : Float :=
  let milliseconds := seconds d * 1000
  if milliseconds > 0 then
    let rate := 1000 / milliseconds
    if greatestRate < rate then greatestRate else rate
  else greatestRate

/-- Follows the time that a frame took; differences within rounding are left alone. -/
def adaptRate (s : Synthetic) (d : Duration) : Synthetic :=
  let rate := rateFor d
  if (rate - s.rate).abs > 2.220446049250313e-16 then { s with rate } else s

variable {m : Type → Type} [Monad m] [MonadLog m]

/-- The source that a URL describes. -/
def ofUrl (url : Url) : m (Except SyntheticFault Synthetic) := do
  if url.scheme ≠ syntheticScheme then
    logError s!"URI scheme mismatch: expected '{syntheticScheme}', found '{url.scheme}'"
    return .error (.scheme url.scheme)
  let unknown (name value : String) : m Unit := logWarn s!"忽略未知参数: {name}={value}"
  match ← applySettings SyntheticSettings.apply unknown .default url.settings with
  | .error fault => return .error (.setting fault)
  | .ok s =>
    let limit := match s.limit with
      | some n => s!"Some({n})"
      | none => "None"
    logInfo s!"创建合成帧来源: {s.width}x{s.height} {s.format.name}, 帧数限制 {limit}"
    return .ok (ofSettings s)

/-- The next frame; that there is none is reported. -/
def deliver (s : Synthetic) : m (Except Overflow (Option Frame × Synthetic)) := do
  match s.acquire with
  | .error cause => return .error cause
  | .ok none =>
    logWarn "合成帧来源已耗尽"
    return .ok (none, s)
  | .ok (some (frame, s)) => return .ok (some frame, s)

end Synthetic

end FrameDetect.Video
