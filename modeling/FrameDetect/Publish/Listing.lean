import FrameDetect.Decimal.Fixed
import FrameDetect.Log
import FrameDetect.Publish.Event

/-!
# Output to the log

An overlay that only counts its rectangles, and events as log lines.
-/

namespace FrameDetect.Publish

open FrameDetect.Decimal (fixed)
open FrameDetect.Detect (Corners)

/-- The scheme of URLs for output to the log. -/
def logScheme : String := "log"

/-- An overlay that shows nothing. -/
structure Listing where
  /-- The rectangles since it was cleared. -/
  rectangles : Array Corners
  commits : Nat
deriving DecidableEq

namespace Listing

def empty : Listing := ⟨#[], 0⟩

def clear (l : Listing) : Listing := { l with rectangles := #[] }

def rectangle (l : Listing) (corners : Corners) : Listing :=
  { l with rectangles := l.rectangles.push corners }

/-- Counts a commit and reports the number of rectangles. -/
def commit {m : Type → Type} [Monad m] [MonadLog m] (l : Listing) : m Listing := do
  logInfo s!"叠加层更新: {l.rectangles.size} 个矩形"
  return { l with commits := l.commits + 1 }

end Listing

/-- Corners with three places. -/
def cornersText (c : Corners) : String :=
  s!"[{fixed 3 c.left}, {fixed 3 c.top}, {fixed 3 c.right}, {fixed 3 c.bottom}]"

/-- The log line of an event. -/
def Event.line (event : Event) : String :=
  s!"检测事件: {event.label} {fixed 3 event.confidence} {cornersText event.corners}"

end FrameDetect.Publish
