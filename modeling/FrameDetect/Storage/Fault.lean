/-!
# Faults of the storage

Why a file or a directory cannot be read or made.
-/

namespace FrameDetect.Storage

/-- What the storage reports. -/
inductive Fault where
  | notFound
  | notADirectory
  | isADirectory
  | alreadyExists
  | nameTooLong
  /-- A path that holds a zero character. -/
  | invalidName
  /-- The bytes of a file are no text. -/
  | notText
  | other (text : String)
deriving Repr, DecidableEq

def Fault.message : Fault → String
  | .notFound => "No such file or directory (os error 2)"
  | .notADirectory => "Not a directory (os error 20)"
  | .isADirectory => "Is a directory (os error 21)"
  | .alreadyExists => "File exists (os error 17)"
  | .nameTooLong => "File name too long (os error 36)"
  | .invalidName => "file name contained an unexpected NUL byte"
  | .notText => "stream did not contain valid UTF-8"
  | .other text => text

end FrameDetect.Storage
