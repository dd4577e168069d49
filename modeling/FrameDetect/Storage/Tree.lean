import FrameDetect.Storage.Fault
import FrameDetect.Storage.Path

/-!
# Trees of files

Files and directories by their places, the parts from the root down.  The root is always there, and
every change keeps the directories above a file.
-/

namespace FrameDetect.Storage

/-- What is at a place. -/
inductive Entry where
  | file (bytes : ByteArray)
  | directory

/-- A place in a tree. -/
abbrev Place := List String

/-- Files and directories, and the directory where relative paths start. -/
structure Tree where
  workingDirectory : Place
  entries : List (Place × Entry)

namespace Tree

/-- What is at a place. -/
def entry? (tree : Tree) (place : Place) : Option Entry :=
  if place.isEmpty then some .directory else tree.entries.lookup place

/-- Puts something at a place. -/
def set (tree : Tree) (place : Place) (entry : Entry) : Tree :=
  { tree with entries := (place, entry) :: tree.entries.filter fun (other, _) => other != place }

/-- The place one step further. -/
def step (place : Place) (piece : String) : Place :=
  if piece = ".." then place.dropLast else place ++ [piece]

/-- The greatest number of bytes in a piece of a path, and in a path. -/
def longestPiece : Nat := 255
def longestPath : Nat := 4095

/-- One step further from a directory. -/
def enter (tree : Tree) (place : Place) (piece : String) : Except Fault Place :=
  match tree.entry? place with
  | some .directory =>
    if longestPiece < piece.utf8ByteSize then .error .nameTooLong else .ok (step place piece)
  | some (.file _) => .error .notADirectory
  | none => .error .notFound

/-- Where steps lead from a place.  Every place that is left must be a directory. -/
def walk (tree : Tree) (place : Place) (steps : List String) : Except Fault Place :=
  steps.foldlM tree.enter place

/-- Where a path starts, if it can be a path. -/
def start (tree : Tree) (path : String) : Except Fault Place :=
  if path.isEmpty then .error .notFound
  else if path.contains '\x00' then .error .invalidName
  else if longestPath < path.utf8ByteSize then .error .nameTooLong
  else .ok (if isAbsolute path then [] else tree.workingDirectory)

/-- The bytes of a file. -/
def read (tree : Tree) (path : String) : Except Fault ByteArray := do
  match tree.entry? (← tree.walk (← tree.start path) (steps path)) with
  | some (.file bytes) => if namesDirectory path then throw .notADirectory else return bytes
  | some .directory => throw .isADirectory
  | none => throw .notFound

/-- The pieces of a path before the last one that is not empty, and that one. -/
def splitLast (path : String) : List String × String :=
  match (pieces path).reverse.dropWhile (· == "") with
  | last :: before => (before.reverse, last)
  | [] => ([], ".")

/-- Where a file can be written, with the bytes that are there.  The place of the file is looked at only
when that of its directory is found. -/
def target (tree : Tree) (path : String) : Except Fault (Place × ByteArray) := do
  let (before, last) := splitLast path
  let above ← tree.walk (← tree.start path) (leading before)
  if namesDirectory path then
    let _ ← tree.enter above "."
    throw .isADirectory
  let place ← tree.enter above last
  match tree.entry? place with
  | some (.file bytes) => return (place, bytes)
  | some .directory => throw .isADirectory
  | none => return (place, .empty)

/-- Writes a file anew. -/
def write (tree : Tree) (path : String) (bytes : ByteArray) : Except Fault Tree := do
  let (place, _) ← tree.target path
  return tree.set place (.file bytes)

/-- Adds bytes at the end of a file, which is made if it is not there. -/
def append (tree : Tree) (path : String) (bytes : ByteArray) : Except Fault Tree := do
  let (place, old) ← tree.target path
  return tree.set place (.file (old ++ bytes))

/-- Makes the directories along steps from a directory. -/
def makeAlong (tree : Tree) (place : Place) : List String → Except Fault Tree
  | [] => .ok tree
  | piece :: rest => do
    let next ← tree.enter place piece
    match tree.entry? next with
    | some .directory => tree.makeAlong next rest
    | some (.file _) => throw (if rest.isEmpty then .alreadyExists else .notADirectory)
    | none => (tree.set next .directory).makeAlong next rest

/-- Makes a directory and those above it, as far as they are not there. -/
def makeDirectories (tree : Tree) (path : String) : Except Fault Tree := do
  tree.makeAlong (← tree.start path) (steps path)

end Tree

end FrameDetect.Storage
