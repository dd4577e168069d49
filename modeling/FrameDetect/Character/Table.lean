/-!
# Tables of characters

Properties of characters are tables over their codes.  A property that holds or not is a list of the
lengths of runs; one with more values is a text of numbers in base 16.
-/

namespace FrameDetect.Character

/-- Whether the code at a distance from the start of the runs lies in a run of the first kind, where
`first` tells whether the first run is of that kind.  Past the last run it is. -/
def inRuns (first : Bool) (distance : Nat) : List Nat → Bool
  | [] => true
  | run :: rest => if distance < run then first else inRuns (!first) (distance - run) rest

/-- The value of a digit in base 16. -/
def digitValue (c : Char) : Nat :=
  if c.isDigit then c.toNat - '0'.toNat else c.toNat - 'A'.toNat + 10

/-- The numbers in a text, with blanks between them. -/
def numbers (cs : List Char) : List Nat :=
  let words := (cs.splitOnP Char.isWhitespace).filter fun word => !word.isEmpty
  words.map fun word => word.foldl (fun n c => 16 * n + digitValue c) 0

/-- The entries of a table, with commas between them. -/
def entries (table : String) : List (List Nat) := (table.toList.splitOn ',').map numbers

/-- Codes that follow each other. -/
structure Run where
  first : Nat
  count : Nat
deriving Repr, DecidableEq

/-- Whether a code lies in a run. -/
def Run.contains (run : Run) (code : Nat) : Bool :=
  run.first ≤ code && code < run.first + run.count

/-- The run of an entry that has its first code and, unless it is one, its length. -/
def Run.ofEntry? : List Nat → Option Run
  | [first] => some ⟨first, 1⟩
  | [first, count] => some ⟨first, count⟩
  | _ => none

/-- The runs of a table. -/
def runs (table : String) : List Run := (entries table).filterMap Run.ofEntry?

end FrameDetect.Character
