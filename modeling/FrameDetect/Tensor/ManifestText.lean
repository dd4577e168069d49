import FrameDetect.Json.Reader
import FrameDetect.Tensor.Layout

/-!
# Manifests as JSON

A manifest is an object with six numbers, or a list of them in order.  Members with other names are
skipped; a name that comes twice is refused as soon as it is read, and names that are missing are
noticed at the end of the object.
-/

namespace FrameDetect.Tensor

open FrameDetect.Json (Fault Number Result nextItem nextMember readColon readScalar skipSpace
  skipValue)
open FrameDetect.Number (Range)
open FrameDetect.Text (unsigned32 unsigned64)

/-- A number of a manifest. -/
inductive Field where
  | inputWidth
  | inputHeight
  | scale
  | zeroPoint
  | classes
  | rows
deriving Repr, DecidableEq

/-- The fields in the order of a list. -/
def Field.all : List Field := [.inputWidth, .inputHeight, .scale, .zeroPoint, .classes, .rows]

/-- The name of the field in an object. -/
def Field.name : Field → String
  | .inputWidth => Size.inputWidth.name
  | .inputHeight => Size.inputHeight.name
  | .scale => "quantization_scale"
  | .zeroPoint => "quantization_zero_point"
  | .classes => Size.classes.name
  | .rows => Size.rows.name

/-- The field of a name. -/
def Field.ofName? (name : String) : Option Field := Field.all.find? fun field => field.name = name

/-- What a manifest is called in messages. -/
def manifestName : String := "struct ModelManifest"

/-- The fields that have been read. -/
structure Draft where
  inputWidth : Option UInt32
  inputHeight : Option UInt32
  scale : Option Float32
  zeroPoint : Option Float32
  classes : Option UInt64
  rows : Option UInt64

/-- No field. -/
def Draft.empty : Draft := ⟨none, none, none, none, none, none⟩

/-- Whether a field has been read. -/
def Draft.has (draft : Draft) : Field → Bool
  | .inputWidth => draft.inputWidth.isSome
  | .inputHeight => draft.inputHeight.isSome
  | .scale => draft.scale.isSome
  | .zeroPoint => draft.zeroPoint.isSome
  | .classes => draft.classes.isSome
  | .rows => draft.rows.isSome

/-- A number of a range without negative numbers. -/
def natural (expected : String) (range : Range) : Number → Except Fault Nat
  | .integer n =>
    if 0 ≤ n ∧ n ≤ range.greatest then .ok n.toNat
    else .error (.mismatch (.wrongValue (.integer n) expected))
  | .real x => .error (.mismatch (.wrongType (.real x) expected))

/-- A number of single precision. -/
def single : Number → Float32
  | .integer n => .ofInt n
  | .real x => FrameDetect.Number.narrow x

/-- A number where one is expected. -/
def readExpected {α : Type} (expected : String) (convert : Number → Except Fault α)
    (cs : List Char) : Except Fault (α × List Char) :=
  match skipSpace cs with
  | '[' :: _ => .error (.mismatch (.wrongType .list expected))
  | '\x7b' :: _ => .error (.mismatch (.wrongType .object expected))
  | cs => do
    match ← readScalar cs with
    | (.number n, rest) => (convert n).map (·, rest)
    | (scalar, _) => .error (.mismatch (.wrongType scalar.found expected))

/-- A number of 32 bits. -/
def readWord32 (cs : List Char) : Result UInt32 :=
  readExpected "u32" (fun n => (natural "u32" unsigned32 n).map UInt32.ofNat) cs

/-- A number of 64 bits. -/
def readWord64 (cs : List Char) : Result UInt64 :=
  readExpected "usize" (fun n => (natural "usize" unsigned64 n).map UInt64.ofNat) cs

/-- A number of single precision, rounded. -/
def readSingle (cs : List Char) : Result Float32 :=
  readExpected "f32" (fun n => .ok (single n)) cs

/-- Reads the number of a field into the draft. -/
def Draft.readField (draft : Draft) (field : Field) (cs : List Char) : Result Draft :=
  match field with
  | .inputWidth => (readWord32 cs).map fun (n, rest) => ({ draft with inputWidth := some n }, rest)
  | .inputHeight => (readWord32 cs).map fun (n, rest) => ({ draft with inputHeight := some n }, rest)
  | .scale => (readSingle cs).map fun (x, rest) => ({ draft with scale := some x }, rest)
  | .zeroPoint => (readSingle cs).map fun (x, rest) => ({ draft with zeroPoint := some x }, rest)
  | .classes => (readWord64 cs).map fun (n, rest) => ({ draft with classes := some n }, rest)
  | .rows => (readWord64 cs).map fun (n, rest) => ({ draft with rows := some n }, rest)

/-- The value of a field, which must have been read. -/
def require {α : Type} (field : Field) : Option α → Except Fault α
  | some value => .ok value
  | none => .error (.mismatch (.missing field.name))

/-- The manifest of a draft; the first field that is missing is named. -/
def Draft.manifest (draft : Draft) : Except Fault Manifest := do
  return {
    inputWidth := ← require .inputWidth draft.inputWidth
    inputHeight := ← require .inputHeight draft.inputHeight
    scale := ← require .scale draft.scale
    zeroPoint := ← require .zeroPoint draft.zeroPoint
    classes := ← require .classes draft.classes
    rows := ← require .rows draft.rows }

/-- The fields of an object, each step taking at least a character of the text. -/
def Draft.readMembers (draft : Draft) (first : Bool) (cs : List Char) :
    Nat → Except Fault (Draft × List Char)
  | 0 => .error .ended
  | fuel + 1 => do
    match ← nextMember first cs with
    | .close rest => return (draft, rest)
    | .name rest =>
      let (name, rest) ← Json.readText rest
      match Field.ofName? name with
      | none =>
        let rest ← skipValue (← readColon rest)
        draft.readMembers false rest fuel
      | some field =>
        if draft.has field then throw (.mismatch (.duplicate field.name))
        let (draft, rest) ← draft.readField field (← readColon rest)
        draft.readMembers false rest fuel

/-- The given fields as items of a list, after `count` others. -/
def Draft.readItems (draft : Draft) (count : Nat) (cs : List Char) :
    List Field → Except Fault (Draft × List Char)
  | [] => .ok (draft, cs)
  | field :: fields => do
    match ← nextItem (count = 0) cs with
    | .close _ =>
      throw (.mismatch (.wrongLength count s!"{manifestName} with {Field.all.length} elements"))
    | .item rest =>
      let (draft, rest) ← draft.readField field rest
      draft.readItems (count + 1) rest fields

/-- The text after the closing bracket of a list. -/
def closeList (cs : List Char) : Except Fault (List Char) :=
  match skipSpace cs with
  | ']' :: rest => .ok rest
  | [] => .error .ended
  | _ => .error .malformed

/-- The manifest that a text holds. -/
def Manifest.read (text : String) : Except Fault Manifest := do
  match skipSpace text.toList with
  | '[' :: rest =>
    let (draft, rest) ← Draft.empty.readItems 0 rest Field.all
    let manifest ← draft.manifest
    Json.finish (manifest, ← closeList rest)
  | '\x7b' :: rest =>
    let (draft, rest) ← Draft.empty.readMembers true rest (rest.length + 1)
    let manifest ← draft.manifest
    Json.finish (manifest, rest)
  | cs =>
    let (scalar, _) ← readScalar cs
    throw (.mismatch (.wrongType scalar.found manifestName))

end FrameDetect.Tensor
