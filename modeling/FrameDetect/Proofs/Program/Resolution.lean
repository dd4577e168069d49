import FrameDetect.Machine
import FrameDetect.Program.Start
import FrameDetect.Proofs.Cycle.Reachable
import FrameDetect.Proofs.Settings.Parameters

/-!
# Where thresholds come from

Each threshold is that of its option, else that of the parameter file, else the default.  The file is looked at first
and as a whole, so that nothing makes up for a file that is no good, and the options are checked afterwards.  Whatever
way thresholds come about, they are numbers from zero to one.
-/

namespace FrameDetect.Program

open FrameDetect.Cycle (Detector)
open FrameDetect.Number (InUnit isUnit_iff)
open FrameDetect.Settings
open FrameDetect.Storage (Tree)
open FrameDetect.Tensor (Layout)

/-! ## Files -/

/-- The text of a file. -/
def textAt (files : Tree) (path : String) : Except Storage.Fault String :=
  match files.read path with
  | .error fault => .error fault
  | .ok bytes =>
    match String.fromUTF8? bytes with
    | some text => .ok text
    | none => .error .notText

/-- The parameters in a file. -/
def parametersAt (files : Tree) (path : String) : Except Settings.Fault ParameterFile :=
  match textAt files path with
  | .error fault => .error (.storage fault)
  | .ok text => ParameterFile.ofText text

/-- The thresholds in a file, or the default where there is none. -/
def baseAt (files : Tree) : Option String → Except Settings.Fault Thresholds
  | none => defaultThresholds
  | some path => (parametersAt files path).bind ParameterFile.thresholds

variable (machine : Machine)

theorem readText_run (path : String) :
    (readText path : StateM Machine _) machine = (textAt machine.files path, machine) := by
  have hbytes : (readBytes path : StateM Machine _) machine = (machine.files.read path, machine) := rfl
  unfold readText textAt
  rw [bind_eq_of_eq hbytes]
  cases machine.files.read path with
  | error fault => rfl
  | ok bytes =>
    dsimp only
    cases String.fromUTF8? bytes <;> rfl

/-- Reading parameters changes nothing but the log. -/
theorem loadParameters_run (path : String) :
    ∃ lines, (loadParameters path : StateM Machine _) machine =
      (parametersAt machine.files path, { machine with lines }) := by
  let lines := machine.lines.push (.info, s!"读取参数文件: {path}")
  have hlog : (logInfo s!"读取参数文件: {path}" : StateM Machine Unit) machine = ((), { machine with lines }) := rfl
  refine ⟨lines, ?_⟩
  unfold loadParameters parametersAt
  rw [bind_eq_of_eq hlog, bind_eq_of_eq (readText_run _ path)]
  cases textAt machine.files path <;> rfl

theorem loadInteger_run (file : ParameterFile) (name : String) :
    ∃ lines, (loadInteger file name : StateM Machine _) machine = (file.integer name, { machine with lines }) := by
  unfold loadInteger
  cases file.integer name with
  | error fault => exact ⟨machine.lines, rfl⟩
  | ok n => exact ⟨_, rfl⟩

theorem loadThresholds_run (path : String) :
    ∃ lines, (loadThresholds path : StateM Machine _) machine =
      ((parametersAt machine.files path).bind ParameterFile.thresholds, { machine with lines }) := by
  obtain ⟨lines, hload⟩ := loadParameters_run machine path
  unfold loadThresholds
  rw [bind_eq_of_eq hload]
  cases parametersAt machine.files path with
  | error fault => exact ⟨lines, rfl⟩
  | ok file =>
    dsimp only
    obtain ⟨lines', hconfidence⟩ := loadInteger_run { machine with lines } file Threshold.confidence.parameter
    rw [bind_eq_of_eq hconfidence]
    show ∃ _, _ = (file.thresholds, _)
    unfold ParameterFile.thresholds
    cases file.integer Threshold.confidence.parameter with
    | error fault => exact ⟨lines', rfl⟩
    | ok c =>
      dsimp only
      obtain ⟨lines'', hoverlap⟩ :=
        loadInteger_run { machine with lines := lines' } file Threshold.overlap.parameter
      rw [bind_eq_of_eq hoverlap]
      cases file.integer Threshold.overlap.parameter with
      | error fault => exact ⟨lines'', rfl⟩
      | ok o => exact ⟨lines'', rfl⟩

/-- The options come after what they replace. -/
theorem thresholds_run (o : Options) :
    ∃ lines, (o.thresholds : StateM Machine _) machine =
      ((baseAt machine.files o.params).bind o.override, { machine with lines }) := by
  unfold Options.thresholds baseAt
  cases o.params with
  | none => exact ⟨machine.lines, rfl⟩
  | some path =>
    obtain ⟨lines, hload⟩ := loadThresholds_run machine path
    refine ⟨lines, ?_⟩
    exact bind_eq_of_eq hload _

/-! ## Options and files -/

variable {files : Tree} {params : Option String} {base t : Thresholds}

/-- The thresholds that options replace: the default, or those of a file that can be read, is a JSON object and holds
both percentages. -/
inductive Base (files : Tree) : Option String → Thresholds → Prop
  | default : Base files none ⟨0.5, 0.45⟩
  | file {path : String} {bytes : ByteArray} {text : String} {members : List (String × Json.Value)} {c o : ℤ} :
    files.read path = .ok bytes → String.fromUTF8? bytes = some text → Json.read text = .ok (.object members) →
    HoldsPercentage ⟨members⟩ .confidence c → HoldsPercentage ⟨members⟩ .overlap o →
    Base files (some path) ⟨percent c, percent o⟩

theorem textAt_eq_ok_iff {path text : String} :
    textAt files path = .ok text ↔ ∃ bytes, files.read path = .ok bytes ∧ String.fromUTF8? bytes = some text := by
  unfold textAt
  cases files.read path with
  | error fault => exact iff_of_false nofun nofun
  | ok bytes =>
    simp only [Except.ok.injEq, exists_eq_left']
    cases String.fromUTF8? bytes with
    | none => exact iff_of_false nofun nofun
    | some text' => simp only [Except.ok.injEq, Option.some.injEq]

theorem baseAt_eq_ok_iff : baseAt files params = .ok base ↔ Base files params base := by
  cases params with
  | none =>
    have hdefault : defaultThresholds = .ok ⟨0.5, 0.45⟩ := rfl
    rw [baseAt, hdefault]
    constructor
    · rintro ⟨⟩
      exact .default
    · rintro ⟨⟩
      rfl
  | some path =>
    constructor
    · intro h
      obtain ⟨file, hfile, h⟩ := exists_of_bind_eq_ok h
      obtain ⟨c, o, hc, ho, rfl⟩ := thresholds_eq_ok_iff.1 h
      unfold parametersAt at hfile
      cases htext : textAt files path with
      | error fault =>
        rw [htext] at hfile
        cases hfile
      | ok text =>
        rw [htext] at hfile
        obtain ⟨bytes, hread, hutf8⟩ := textAt_eq_ok_iff.1 htext
        exact .file hread hutf8 (ofText_eq_ok_iff.1 hfile) hc ho
    · rintro (_ | ⟨hread, hutf8, hjson, hc, ho⟩)
      rw [baseAt, parametersAt, textAt_eq_ok_iff.2 ⟨_, hread, hutf8⟩]
      dsimp only
      rw [ofText_eq_ok_iff.2 hjson]
      exact thresholds_eq_ok_iff.2 ⟨_, _, hc, ho, rfl⟩

theorem Base.checked (h : Base files params base) : base.Checked := by
  cases h with
  | default => exact ⟨isUnit_iff.1 (by decide +kernel), isUnit_iff.1 (by decide +kernel)⟩
  | file _ _ _ hc ho => exact ⟨(inUnit_percent_iff _).2 hc.2, (inUnit_percent_iff _).2 ho.2⟩

/-! ## All thresholds there are -/

variable {machine} {machine' : Machine}

/-- The layout of a manifest that was read has passed its checks. -/
theorem ofManifest_of_load {path : String} {layout : Layout}
    (h : (Layout.load path : StateM Machine _) machine = (.ok layout, machine')) :
    ∃ m, Layout.ofManifest m = .ok layout := by
  unfold Layout.load at h
  rw [bind_eq_of_eq (readText_run machine path)] at h
  cases htext : textAt machine.files path with
  | error fault =>
    rw [htext] at h
    cases h
  | ok text =>
    rw [htext] at h
    dsimp only at h
    cases hlayout : Layout.ofText text with
    | error fault =>
      rw [hlayout] at h
      cases h
    | ok read =>
      rw [hlayout] at h
      obtain rfl : read = layout := Except.ok.inj (congrArg Prod.fst h)
      obtain ⟨m, -, hm⟩ := exists_of_bind_eq_ok hlayout
      exact ⟨m, eq_ok_of_mapError_eq_ok hm⟩

/-- What starting up takes from an action is what the action gives. -/
theorem run_ofFault_eq_ok {ε α : Type} {fault : ε → StartFault} {action : StateM Machine (Except ε α)} {a : α}
    (h : (Options.start.ofFault fault action).run machine = (.ok a, machine')) : action machine = (.ok a, machine') := by
  change (((action machine).1.mapError fault), (action machine).2) = _ at h
  have hresult : (action machine).1 = .ok a := eq_ok_of_mapError_eq_ok (congrArg Prod.fst h)
  have hstate : (action machine).2 = machine' := congrArg Prod.snd h
  exact Prod.ext hresult hstate

/-- Thresholds that start the program have been checked, whatever they come from. -/
theorem ofNumbers_of_thresholds {o : Options} (h : (o.thresholds : StateM Machine _) machine = (.ok t, machine')) :
    ∃ confidence overlap, Thresholds.ofNumbers confidence overlap = .ok t := by
  obtain ⟨lines, hrun⟩ := thresholds_run machine o
  rw [hrun] at h
  obtain ⟨base, -, h⟩ := exists_of_bind_eq_ok (congrArg Prod.fst h)
  exact ⟨_, _, h⟩

/-- Starting up leads to a detector as they come about. -/
theorem reachable_of_start {o : Options} {host : Host} {d : Detector}
    (h : (o.start : ExceptT StartFault (StateM Machine) _).run machine = (.ok (host, d), machine')) :
    d.Reachable := by
  unfold Options.start at h
  obtain ⟨_, _, -, h⟩ := exists_of_run_bind_eq_ok h
  obtain ⟨_, _, -, h⟩ := exists_of_run_bind_eq_ok h
  obtain ⟨_, _, -, h⟩ := exists_of_run_bind_eq_ok h
  obtain ⟨_, _, -, h⟩ := exists_of_run_bind_eq_ok h
  obtain ⟨layout, _, hlayout, h⟩ := exists_of_run_bind_eq_ok h
  obtain ⟨thresholds, _, hthresholds, h⟩ := exists_of_run_bind_eq_ok h
  obtain ⟨_, _, -, h⟩ := exists_of_run_bind_eq_ok h
  -- neither the devices nor the labels have a say in the thresholds
  obtain ⟨_, _, -, h⟩ := exists_of_run_bind_eq_ok h
  obtain ⟨_, _, -, h⟩ := exists_of_run_bind_eq_ok h
  obtain ⟨_, _, -, h⟩ := exists_of_run_bind_eq_ok h
  obtain ⟨_, _, -, h⟩ := exists_of_run_bind_eq_ok h
  obtain ⟨labels, _, -, h⟩ := exists_of_run_bind_eq_ok h
  obtain ⟨detector, _, hdetector, h⟩ := exists_of_run_bind_eq_ok h
  obtain ⟨m, hm⟩ := ofManifest_of_load (run_ofFault_eq_ok hlayout)
  obtain ⟨confidence, overlap, hnumbers⟩ := ofNumbers_of_thresholds (run_ofFault_eq_ok hthresholds)
  have hsettings : Detector.ofSettings layout labels thresholds o.tieBreak = .ok detector :=
    congrArg Prod.fst (run_ofFault_eq_ok hdetector)
  have hd : detector = d := congrArg Prod.snd (Except.ok.inj (congrArg Prod.fst h))
  exact hd ▸ .ofSettings hm hnumbers hsettings

/-- The thresholds that come up anywhere: those made of numbers, of percentages, of a file of parameters and of the
options, and those of a detector, from when it starts until other thresholds are set or later. -/
inductive Held : Thresholds → Prop
  | numbers {confidence overlap : Float32} {t : Thresholds} : Thresholds.ofNumbers confidence overlap = .ok t → Held t
  | percentages {c o : ℤ} {t : Thresholds} : Thresholds.ofPercent c o = .ok t → Held t
  | file {machine machine' : Machine} {path : String} {t : Thresholds} :
    (loadThresholds path : StateM Machine _) machine = (.ok t, machine') → Held t
  | options {machine machine' : Machine} {o : Options} {t : Thresholds} :
    (o.thresholds : StateM Machine _) machine = (.ok t, machine') → Held t
  | started {machine machine' : Machine} {o : Options} {host : Host} {d : Detector} :
    (o.start : ExceptT StartFault (StateM Machine) _).run machine = (.ok (host, d), machine') → Held d.thresholds
  | detector {d : Detector} : d.Reachable → Held d.thresholds

theorem Held.checked (h : Held t) : t.Checked := by
  cases h with
  | numbers h => exact Thresholds.checked_of_ofNumbers h
  | percentages h => exact Thresholds.checked_of_ofNumbers h
  | @file machine _ path _ h =>
    obtain ⟨lines, hrun⟩ := loadThresholds_run machine path
    rw [hrun] at h
    have hbase : baseAt machine.files (some path) = .ok t := congrArg Prod.fst h
    exact (baseAt_eq_ok_iff.1 hbase).checked
  | options h =>
    obtain ⟨confidence, overlap, h⟩ := ofNumbers_of_thresholds h
    exact Thresholds.checked_of_ofNumbers h
  | started h => exact (reachable_of_start h).checked
  | detector h => exact h.checked

/-! ## Resolution -/

/-- A threshold that replaces another one is checked just if there is one. -/
theorem inUnit_getD_iff {x : Float32} {given : Option Float32} (hx : InUnit x) :
    InUnit (given.getD x) ↔ ∀ y, given = some y → InUnit y := by
  cases given with
  | none => exact iff_of_true hx nofun
  | some y => exact ⟨fun h z hz => Option.some.inj hz ▸ h, fun h => h y rfl⟩

/-- A threshold is reported just if it is given and out of range. -/
theorem outOfRange_getD_iff {x : Float32} {given : Option Float32} {threshold : Threshold} {fault : Settings.Fault}
    (hx : InUnit x) :
    ¬InUnit (given.getD x) ∧ fault = .outOfRange threshold (given.getD x) ↔
      ∃ y, given = some y ∧ ¬InUnit y ∧ fault = .outOfRange threshold y := by
  cases given with
  | none => exact iff_of_false (fun h => h.1 hx) nofun
  | some y => simp only [Option.getD_some, Option.some.injEq, exists_eq_left']

variable {o : Options}

theorem override_eq_ok_iff (hbase : base.Checked) :
    o.override base = .ok t ↔ ((∀ x, o.confidence = some x → InUnit x) ∧ ∀ x, o.overlap = some x → InUnit x) ∧
      t = ⟨o.confidence.getD base.confidence, o.overlap.getD base.overlap⟩ := by
  rw [Options.override, ofNumbers_eq_ok_iff, inUnit_getD_iff hbase.confidence, inUnit_getD_iff hbase.overlap]

theorem override_eq_error_iff {fault : Settings.Fault} (hbase : base.Checked) :
    o.override base = .error fault ↔
      (∃ x, o.confidence = some x ∧ ¬InUnit x ∧ fault = .outOfRange .confidence x) ∨
        (∀ x, o.confidence = some x → InUnit x) ∧
          ∃ x, o.overlap = some x ∧ ¬InUnit x ∧ fault = .outOfRange .overlap x := by
  rw [Options.override, ofNumbers_eq_error_iff, outOfRange_getD_iff hbase.confidence,
    outOfRange_getD_iff hbase.overlap, inUnit_getD_iff hbase.confidence]

/-- There are thresholds to start with just if the file, where one is given, holds both percentages and the options that
are given are numbers from zero to one.  Each threshold is then that of its option, else that of the file, else the
default.  A file that is no good is reported whatever the options are, and after it the confidence before the overlap.
No thresholds anywhere are out of range or no numbers. -/
theorem thresholds_are_resolved_and_checked (o : Options) (machine : Machine) :
    (∀ t, ((o.thresholds : StateM Machine _) machine).1 = .ok t ↔
      ∃ base, Base machine.files o.params base ∧
        ((∀ x, o.confidence = some x → InUnit x) ∧ ∀ x, o.overlap = some x → InUnit x) ∧
        t = ⟨o.confidence.getD base.confidence, o.overlap.getD base.overlap⟩) ∧
      ((∀ base, ¬Base machine.files o.params base) → ∃ fault, ∀ confidence overlap,
        (({ o with confidence, overlap }.thresholds : StateM Machine _) machine).1 = .error fault) ∧
      (∀ base, Base machine.files o.params base → ∀ fault,
        ((o.thresholds : StateM Machine _) machine).1 = .error fault ↔
          (∃ x, o.confidence = some x ∧ ¬InUnit x ∧ fault = .outOfRange .confidence x) ∨
            (∀ x, o.confidence = some x → InUnit x) ∧
              ∃ x, o.overlap = some x ∧ ¬InUnit x ∧ fault = .outOfRange .overlap x) ∧
      ∀ t, Held t → t.Checked ∧ t.confidence.isNaN = false ∧ t.overlap.isNaN = false := by
  have hresult (o : Options) :
      ((o.thresholds : StateM Machine _) machine).1 = (baseAt machine.files o.params).bind o.override := by
    obtain ⟨lines, hrun⟩ := thresholds_run machine o
    rw [hrun]
  refine ⟨fun t => ?_, fun hbad => ?_, fun base hbase fault => ?_, fun t h => ?_⟩
  · rw [hresult]
    constructor
    · intro h
      obtain ⟨base, hbase, h⟩ := exists_of_bind_eq_ok h
      have hbase := baseAt_eq_ok_iff.1 hbase
      exact ⟨base, hbase, (override_eq_ok_iff hbase.checked).1 h⟩
    · rintro ⟨base, hbase, h⟩
      rw [baseAt_eq_ok_iff.2 hbase]
      exact (override_eq_ok_iff hbase.checked).2 h
  · cases hbase : baseAt machine.files o.params with
    | ok base => exact absurd (baseAt_eq_ok_iff.1 hbase) (hbad base)
    | error fault =>
      refine ⟨fault, fun confidence overlap => ?_⟩
      rw [hresult, hbase]
      rfl
  · rw [hresult, baseAt_eq_ok_iff.2 hbase]
    exact override_eq_error_iff hbase.checked
  · exact ⟨h.checked, h.checked.confidence.isNaN, h.checked.overlap.isNaN⟩

end FrameDetect.Program
