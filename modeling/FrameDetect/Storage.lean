import FrameDetect.Storage.Tree

/-!
# Access to the storage

What the program does with files, in any monad that offers it.
-/

namespace FrameDetect

/-- A computation that can use files. -/
class MonadStorage (m : Type → Type) where
  /-- The bytes of a file. -/
  readBytes : String → m (Except Storage.Fault ByteArray)
  /-- Writes a file anew. -/
  writeBytes : String → ByteArray → m (Except Storage.Fault Unit)
  /-- Adds bytes at the end of a file, which is made if it is not there. -/
  appendBytes : String → ByteArray → m (Except Storage.Fault Unit)
  /-- Makes a directory and those above it. -/
  makeDirectories : String → m (Except Storage.Fault Unit)

export MonadStorage (readBytes writeBytes appendBytes makeDirectories)

instance {m n : Type → Type} [MonadLift m n] [MonadStorage m] : MonadStorage n where
  readBytes path := monadLift (readBytes path : m _)
  writeBytes path bytes := monadLift (writeBytes path bytes : m _)
  appendBytes path bytes := monadLift (appendBytes path bytes : m _)
  makeDirectories path := monadLift (makeDirectories path : m _)

/-- The text of a file. -/
def readText {m : Type → Type} [Monad m] [MonadStorage m] (path : String) :
    m (Except Storage.Fault String) := do
  match ← readBytes path with
  | .error fault => return .error fault
  | .ok bytes =>
    match String.fromUTF8? bytes with
    | some text => return .ok text
    | none => return .error .notText

/-- Makes the directories above a file. -/
def makeParent {m : Type → Type} [Monad m] [MonadStorage m] (path : String) :
    m (Except Storage.Fault Unit) :=
  match Storage.parent? path with
  | some parent => if parent.isEmpty then return .ok () else makeDirectories parent
  | none => return .ok ()

end FrameDetect
