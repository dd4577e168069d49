import FrameDetect.Clock
import FrameDetect.Log
import FrameDetect.Storage

/-!
# Machines

What the program can see and change of the computer that it runs on, as a value: files, log lines and
clocks.  Computations over a machine are functions, and can be reasoned about as such.
-/

namespace FrameDetect

open FrameDetect.Storage (Tree)
open FrameDetect.Time (Duration Timestamp)

/-- A computer as the program sees it. -/
structure Machine where
  files : Tree
  /-- The log lines so far, the first one first. -/
  lines : Array (Level × String)
  elapsed : Duration
  timestamp : Timestamp

namespace Machine

/-- Changes the files, unless that fails. -/
def change (f : Tree → Except Storage.Fault Tree) : StateM Machine (Except Storage.Fault Unit) :=
  modifyGet fun machine =>
    match f machine.files with
    | .ok files => (.ok (), { machine with files })
    | .error fault => (.error fault, machine)

instance : MonadLog (StateM Machine) where
  log level text := modify fun machine => { machine with lines := machine.lines.push (level, text) }

instance : MonadStorage (StateM Machine) where
  readBytes path := do return (← get).files.read path
  writeBytes path bytes := change fun files => files.write path bytes
  appendBytes path bytes := change fun files => files.append path bytes
  makeDirectories path := change fun files => files.makeDirectories path

instance : MonadClock (StateM Machine) where
  elapsed := do return (← get).elapsed
  timestamp := do return (← get).timestamp

end Machine

end FrameDetect
