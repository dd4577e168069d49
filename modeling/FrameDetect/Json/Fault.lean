import FrameDetect.Decimal.Style
import FrameDetect.Text.Quoted

/-!
# What is wrong with a JSON text

A text is read once, from its start, and the first fault ends the reading.
-/

namespace FrameDetect.Json

open FrameDetect.Decimal (jsonDouble)
open FrameDetect.Text (quoted)

/-- What stands where something else is expected. -/
inductive Found where
  | null
  | boolean (value : Bool)
  | integer (value : Int)
  | real (value : Float)
  | text (value : String)
  | list
  | object
deriving DecidableEq

def Found.message : Found → String
  | .null => "null"
  | .boolean value => s!"boolean `{value}`"
  | .integer value => s!"integer `{value}`"
  | .real value => s!"floating point `{jsonDouble value}`"
  | .text value => s!"string {quoted value}"
  | .list => "sequence"
  | .object => "map"

/-- A well-formed text that is not what is asked for. -/
inductive Mismatch where
  | missing (field : String)
  | duplicate (field : String)
  | wrongType (found : Found) (expected : String)
  | wrongValue (found : Found) (expected : String)
  | wrongLength (length : Nat) (expected : String)
deriving DecidableEq

def Mismatch.message : Mismatch → String
  | .missing field => s!"missing field `{field}`"
  | .duplicate field => s!"duplicate field `{field}`"
  | .wrongType found expected => s!"invalid type: {found.message}, expected {expected}"
  | .wrongValue found expected => s!"invalid value: {found.message}, expected {expected}"
  | .wrongLength length expected => s!"invalid length {length}, expected {expected}"

/-- Why a text cannot be read. -/
inductive Fault where
  /-- It ends where more is needed. -/
  | ended
  /-- It is not JSON, nests too deeply, or holds a number that is too large. -/
  | malformed
  /-- It is JSON so far, but not what is asked for. -/
  | mismatch (cause : Mismatch)
deriving DecidableEq

def Fault.message : Fault → String
  | .ended => "unexpected end of text"
  | .malformed => "malformed text"
  | .mismatch cause => cause.message

/-- The rest of a text after a part that is read, with what was read. -/
abbrev Result (α : Type) := Except Fault (α × List Char)

end FrameDetect.Json
