import FrameDetect.Json.Printer
import FrameDetect.Json.Reader
import FrameDetect.Settings.Thresholds
import FrameDetect.Text.Blank
import FrameDetect.Text.Integer

/-!
# Parameter files

A device keeps its parameters in a JSON object.  An integer parameter is an integer or a string that
holds one, blank characters around it aside.
-/

namespace FrameDetect.Settings

open FrameDetect.Json (Value member?)
open FrameDetect.Text (readInteger signed64 trimBlank)

/-- The parameters of a device. -/
structure ParameterFile where
  members : List (String × Value)

namespace ParameterFile

/-- The parameters in a JSON text. -/
def ofText (text : String) : Except Fault ParameterFile :=
  match Json.read text with
  | .ok (.object members) => .ok ⟨members⟩
  | .ok _ => .error .notAnObject
  | .error cause => .error (.json cause)

/-- Whether there is a parameter of this name. -/
def contains (file : ParameterFile) (name : String) : Bool := (member? name file.members).isSome

/-- The integer that a value stands for. -/
def integer? : Value → Option Int
  | .integer n => if signed64.least ≤ n ∧ n ≤ signed64.greatest then some n else none
  | .text text => (readInteger signed64 (trimBlank text.toList)).toOption
  | _ => none

/-- An integer parameter. -/
def integer (file : ParameterFile) (name : String) : Except Fault Int :=
  match member? name file.members with
  | none => .error (.missing name)
  | some value =>
    match integer? value with
    | some n => .ok n
    | none => .error (.notAnInteger name value.compact)

/-- The thresholds among the parameters. -/
def thresholds (file : ParameterFile) : Except Fault Thresholds := do
  let confidence ← file.integer Threshold.confidence.parameter
  let overlap ← file.integer Threshold.overlap.parameter
  Thresholds.ofPercent confidence overlap

end ParameterFile

end FrameDetect.Settings
