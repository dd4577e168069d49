import FrameDetect.Publish.Journal
import FrameDetect.Publish.Listing
import FrameDetect.Publish.Picture

/-!
# Outputs by URL

The scheme of a URL chooses between the overlays and between the receivers of events.
-/

namespace FrameDetect.Publish

open FrameDetect.Detect (Corners)

/-- What can go wrong with an output. -/
inductive OutputFault where
  | picture (cause : PictureFault)
  | journal (cause : JournalFault)
  | scheme (actual : String)
deriving Repr, DecidableEq

def OutputFault.message : OutputFault → String
  | .picture cause => s!"叠加层图像输出错误: {cause.message}"
  | .journal cause => s!"事件记录错误: {cause.message}"
  | .scheme actual => s!"URI 方案不匹配: {actual}"

/-- An overlay that a URL can choose. -/
inductive OverlayOutput where
  | listing (listing : Listing)
  | picture (picture : Picture)
deriving DecidableEq

/-- A receiver of events that a URL can choose. -/
inductive EventOutput where
  | log
  | journal (journal : Journal)
deriving Repr, DecidableEq

variable {m : Type → Type} [Monad m] [MonadLog m] [MonadStorage m]

/-- The overlay that only writes to the log. -/
def listingOfUrl (url : Url) : Except OutputFault Listing :=
  if url.scheme = logScheme then .ok .empty else .error (.scheme url.scheme)

/-- The receiver that only writes to the log. -/
def logOfUrl (url : Url) : Except OutputFault Unit :=
  if url.scheme = logScheme then .ok () else .error (.scheme url.scheme)

namespace OverlayOutput

/-- The overlay that a URL describes. -/
def ofUrl (url : Url) : m (Except OutputFault OverlayOutput) := do
  if url.scheme = logScheme then return (listingOfUrl url).map .listing
  else if url.scheme = pictureScheme then
    return ((← Picture.ofUrl url).map .picture).mapError .picture
  else return .error (.scheme url.scheme)

def clear : OverlayOutput → OverlayOutput
  | .listing l => .listing l.clear
  | .picture p => .picture p.clear

def rectangle (output : OverlayOutput) (corners : Corners) : OverlayOutput :=
  match output with
  | .listing l => .listing (l.rectangle corners)
  | .picture p => .picture (p.rectangle corners)

/-- Shows the rectangles. -/
def commit : OverlayOutput → m (Except OutputFault Unit × OverlayOutput)
  | .listing l => do return (.ok (), .listing (← l.commit))
  | .picture p => do return ((← p.commit).mapError .picture, .picture p)

end OverlayOutput

namespace EventOutput

/-- The receiver that a URL describes. -/
def ofUrl (url : Url) : Except OutputFault EventOutput :=
  if url.scheme = logScheme then (logOfUrl url).map fun () => .log
  else if url.scheme = journalScheme then ((Journal.ofUrl url).map .journal).mapError .journal
  else .error (.scheme url.scheme)

def declare : EventOutput → m (Except OutputFault Unit × EventOutput)
  | .log => return (.ok (), .log)
  | .journal j => do
    let (result, j) ← j.declare
    return (result.mapError .journal, .journal j)

def notify [MonadClock m] (output : EventOutput) (event : Event) : m (Except OutputFault Unit) :=
  match output with
  | .log => do
    logInfo event.line
    return .ok ()
  | .journal j => do return (← j.notify event).mapError .journal

def undeclare : EventOutput → m EventOutput
  | .log => return .log
  | .journal j => do return .journal (← j.undeclare)

end EventOutput

end FrameDetect.Publish
