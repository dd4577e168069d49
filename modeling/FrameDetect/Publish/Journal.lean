import FrameDetect.Clock
import FrameDetect.Log
import FrameDetect.Publish.Event
import FrameDetect.Storage
import FrameDetect.Url.Basic

/-!
# Journals of events

A receiver that adds each event to a file, as JSON on a line of its own with the time.  It takes events
only while they are declared.
-/

namespace FrameDetect.Publish

open FrameDetect.Time (Timestamp)

/-- The scheme of URLs for journals. -/
def journalScheme : String := "events"

/-- What can go wrong with a journal. -/
inductive JournalFault where
  | storage (cause : Storage.Fault)
  | notDeclared
  | scheme (actual : String)
deriving Repr, DecidableEq

def JournalFault.message : JournalFault → String
  | .storage cause => s!"I/O 错误: {cause.message}"
  | .notDeclared => "事件尚未声明"
  | .scheme actual =>
    s!"URI 方案不匹配: 期望记录方式 '{journalScheme}', 实际记录方式 '{actual}'"

/-- A file of events. -/
structure Journal where
  path : String
  declared : Bool
deriving Repr, DecidableEq

/-- The record of an event at a time. -/
def Event.record (event : Event) (time : Timestamp) : Json.Value :=
  .object [("timestamp", .text time.text), ("topic", .text topic), ("data", event.value)]

namespace Journal

/-- A journal that takes no events yet. -/
def ofPath (path : String) : Journal := ⟨path, false⟩

/-- The journal that a URL describes; its path names the file. -/
def ofUrl (url : Url) : Except JournalFault Journal :=
  if url.scheme = journalScheme then .ok (ofPath url.path) else .error (.scheme url.scheme)

variable {m : Type → Type} [Monad m] [MonadStorage m]

/-- Makes the file if it is not there, and takes events from now on. -/
def declare [MonadLog m] (j : Journal) : m (Except JournalFault Unit × Journal) := do
  if j.declared then return (.ok (), j)
  match ← makeParent j.path with
  | .error fault => return (.error (.storage fault), j)
  | .ok () =>
    match ← appendBytes j.path .empty with
    | .error fault => return (.error (.storage fault), j)
    | .ok () =>
      logInfo s!"声明检测事件: {topic} -> {j.path}"
      return (.ok (), { j with declared := true })

/-- Adds an event to the file. -/
def notify [MonadClock m] (j : Journal) (event : Event) : m (Except JournalFault Unit) := do
  if !j.declared then return .error .notDeclared
  let record := event.record (← timestamp)
  match ← appendBytes j.path (record.compact ++ "\n").toUTF8 with
  | .error fault => return .error (.storage fault)
  | .ok () => return .ok ()

/-- Takes no more events. -/
def undeclare [MonadLog m] (j : Journal) : m Journal := do
  if j.declared then logInfo s!"撤销检测事件声明: {j.path}"
  return { j with declared := false }

end Journal

end FrameDetect.Publish
