import FrameDetect.Decimal.Reading
import FrameDetect.Detect.Suppression
import FrameDetect.Url.Parser

/-!
# Command lines

A command line is a list of options with one value each.  An option and its value are two words, or one
with an equals sign between them.  The value of two words is looked at only when the next option comes,
so that a word that is no option at all is noticed first.
-/

namespace FrameDetect.Program

open FrameDetect.Decimal (readSingle)
open FrameDetect.Detect (TieBreak)
open FrameDetect.Text (readUInt64)

/-- An option with a value. -/
inductive Flag where
  | model
  | modelParams
  | input
  | overlay
  | events
  | labels
  | params
  | confidence
  | overlap
  | tieBreak
  | period
  | maxCycles
deriving Repr, DecidableEq

def Flag.name : Flag → String
  | .model => "model"
  | .modelParams => "model-params"
  | .input => "input"
  | .overlay => "overlay"
  | .events => "events"
  | .labels => "labels"
  | .params => "params"
  | .confidence => "confidence"
  | .overlap => "nms-threshold"
  | .tieBreak => "tie-break"
  | .period => "period-ms"
  | .maxCycles => "max-cycles"

/-- The options of every program. -/
def Flag.common : List Flag :=
  [.model, .modelParams, .input, .overlay, .events, .labels, .params, .confidence, .overlap,
    .tieBreak]

/-- The options that a program takes. -/
structure Usage where
  flags : List Flag
  /-- Whether it can be asked for its version. -/
  version : Bool

/-- The programs without the options of one of them. -/
def Usage.shared : Usage := ⟨Flag.common, false⟩

/-- The program that runs one cycle. -/
def Usage.oneShot : Usage := ⟨Flag.common, true⟩

/-- The program that runs cycles at intervals. -/
def Usage.periodic : Usage := ⟨Flag.common ++ [.period, .maxCycles], true⟩

/-- Why a command line is not carried out. -/
inductive UsageFault where
  /-- A word that is neither an option nor the value of one. -/
  | unknown
  /-- A value is missing, empty where it may not be, or not among those there are. -/
  | invalidValue
  /-- A value that cannot be read. -/
  | unreadable
  /-- An option that must be given is not. -/
  | missing
  /-- An option is given twice. -/
  | repeated
  /-- A value where none is taken. -/
  | surplusValue
  /-- Help is asked for. -/
  | help
  /-- The version is asked for. -/
  | version
deriving Repr, DecidableEq

/-- The options that have been read. -/
structure Draft where
  model : Option Url
  modelParams : Option String
  input : Option Url
  overlay : Option Url
  events : Option Url
  labels : Option String
  params : Option String
  confidence : Option Float32
  overlap : Option Float32
  tieBreak : Option TieBreak
  period : Option UInt64
  maxCycles : Option UInt64
  /-- The options that have been given. -/
  given : List Flag

/-- No option. -/
def Draft.empty : Draft :=
  ⟨none, none, none, none, none, none, none, none, none, none, none, none, []⟩

/-- A URL. -/
def urlValue (text : String) : Except UsageFault Url :=
  match Url.parse? text with
  | some url => .ok url
  | none => .error .unreadable

/-- A path, which may not be empty. -/
def pathValue (text : String) : Except UsageFault String :=
  if text.isEmpty then .error .invalidValue else .ok text

/-- A number of single precision. -/
def numberValue (text : String) : Except UsageFault Float32 :=
  match readSingle text with
  | some x => .ok x
  | none => .error .unreadable

/-- A count. -/
def countValue (text : String) : Except UsageFault UInt64 :=
  (readUInt64 text).mapError fun _ => .unreadable

/-- The name of a way to break ties. -/
def tieBreakValue : String → Except UsageFault TieBreak
  | "later" => .ok .later
  | "earlier" => .ok .earlier
  | _ => .error .invalidValue

/-- Reads the value of an option. -/
def Draft.assign (d : Draft) (flag : Flag) (text : String) : Except UsageFault Draft :=
  match flag with
  | .model => (urlValue text).map fun url => { d with model := some url }
  | .modelParams => (pathValue text).map fun path => { d with modelParams := some path }
  | .input => (urlValue text).map fun url => { d with input := some url }
  | .overlay => (urlValue text).map fun url => { d with overlay := some url }
  | .events => (urlValue text).map fun url => { d with events := some url }
  | .labels => (pathValue text).map fun path => { d with labels := some path }
  | .params => (pathValue text).map fun path => { d with params := some path }
  | .confidence => (numberValue text).map fun x => { d with confidence := some x }
  | .overlap => (numberValue text).map fun x => { d with overlap := some x }
  | .tieBreak => (tieBreakValue text).map fun t => { d with tieBreak := some t }
  | .period => (countValue text).map fun n => { d with period := some n }
  | .maxCycles => (countValue text).map fun n => { d with maxCycles := some n }

/-- Takes an option with its value.  That it is given twice is noticed before its value is read. -/
def Draft.take (d : Draft) (flag : Flag) (text : String) : Except UsageFault Draft :=
  if d.given.contains flag then .error .repeated
  else (d.assign flag text).map fun d => { d with given := flag :: d.given }

/-- An option whose value has not been looked at, if there is one. -/
inductive Waiting where
  | nothing
  | value (flag : Flag)
  | reading (flag : Flag) (text : String)

/-- Looks at the value of the option that waits. -/
def Draft.settle (d : Draft) : Waiting → Except UsageFault Draft
  | .nothing => .ok d
  | .value _ => .error .invalidValue
  | .reading flag text => d.take flag text

/-- What a word of a command line is. -/
inductive Word where
  /-- Words after this one are no options. -/
  | stop
  | option (name : String) (value : Option String)
  | short (letter : Option Char)
  | plain (text : String)

/-- Tells what a word is. -/
def Word.ofText (text : String) : Word :=
  match text.toList with
  | ['-', '-'] => .stop
  | '-' :: '-' :: rest =>
    let (name, value) := rest.span (· != '=')
    .option (String.ofList name)
      (match value with
        | _ :: value => some (String.ofList value)
        | [] => none)
  | ['-'] => .plain text
  | '-' :: rest => .short rest.head?
  | _ => .plain text

/-- The words of a command line. -/
def Draft.readWords (usage : Usage) (d : Draft) (waiting : Waiting) (stopped : Bool) :
    List String → Except UsageFault Draft
  | [] => d.settle waiting
  | text :: rest => do
    if stopped then throw .unknown
    match Word.ofText text with
    | .stop => d.readWords usage waiting true rest
    | .plain text =>
      match waiting with
      | .value flag => d.readWords usage (.reading flag text) false rest
      | _ => throw .unknown
    | .short letter =>
      if letter = some 'h' then
        let _ ← d.settle waiting
        throw .help
      else if letter = some 'V' ∧ usage.version then
        let _ ← d.settle waiting
        throw .version
      else throw .unknown
    | .option name value =>
      match usage.flags.find? fun flag => flag.name = name, value with
      | some flag, none =>
        let d ← d.settle waiting
        d.readWords usage (.value flag) false rest
      | some flag, some text =>
        let d ← (← d.settle waiting).take flag text
        d.readWords usage .nothing false rest
      | none, value =>
        if name = "help" ∨ (name = "version" ∧ usage.version) then
          if value.isSome then throw .surplusValue
          let _ ← d.settle waiting
          throw (if name = "help" then .help else .version)
        else throw .unknown

/-- What a program is asked to do. -/
structure Options where
  model : Url
  modelParams : String
  input : Url
  overlay : Url
  events : Url
  labels : Option String
  params : Option String
  confidence : Option Float32
  overlap : Option Float32
  tieBreak : TieBreak
  /-- The interval of cycles in milliseconds. -/
  period : Option UInt64
  maxCycles : Option UInt64

/-- Frames from a synthetic camera, where no input is given. -/
def defaultInput : Url := ⟨"stub", some "camera", "", none, none⟩

/-- An overlay in the log, where none is given. -/
def defaultOverlay : Url := ⟨"log", some "overlay", "", none, none⟩

/-- Events in the log, where no receiver is given. -/
def defaultEvents : Url := ⟨"log", some "events", "", none, none⟩

/-- The options of a draft, with defaults for those that are not given. -/
def Draft.options (d : Draft) : Except UsageFault Options :=
  match d.model, d.modelParams with
  | some model, some modelParams =>
    .ok
      { model, modelParams
        input := d.input.getD defaultInput
        overlay := d.overlay.getD defaultOverlay
        events := d.events.getD defaultEvents
        labels := d.labels
        params := d.params
        confidence := d.confidence
        overlap := d.overlap
        tieBreak := d.tieBreak.getD .later
        period := d.period
        maxCycles := d.maxCycles }
  | _, _ => .error .missing

/-- The options on a command line. -/
def Options.read (usage : Usage) (words : List String) : Except UsageFault Options := do
  (← Draft.empty.readWords usage .nothing false words).options

end FrameDetect.Program
