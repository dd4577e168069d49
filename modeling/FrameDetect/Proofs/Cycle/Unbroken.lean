import FrameDetect.Proofs.Basic
import FrameDetect.Proofs.Cycle.Reachable
import FrameDetect.Proofs.Tensor.BestClass

/-!
# No step breaks

No precondition of the pipeline is ever broken in a detector that came about by cycles and changes of
thresholds, whatever bytes a tensor has.  And each row that it publishes has a class for which there is a
label.
-/

namespace FrameDetect.Cycle.Detector

open FrameDetect.Detect (Detection Scratch)
open FrameDetect.Settings (Thresholds)
open FrameDetect.Tensor (View)

variable {d : Detector}

/-- The steps of the pipeline on a tensor, none of which breaks. -/
def StepsThrough (d : Detector) (v : View) : Prop :=
  ∃ decoded filtered count suppressed detections,
    d.scratch.decode v = .ok decoded ∧
    decoded.filter d.thresholds.confidence = .ok filtered ∧
    filtered.suppress d.thresholds.overlap d.tieBreak = .ok (count, suppressed) ∧
    suppressed.resolve v = .ok detections

/-- The steps by which the pipeline comes to its detections. -/
theorem steps_of_detectView {v : View} {detections : List Detection} {after : Scratch}
    (h : d.detectView v = .ok (detections, after)) :
    ∃ decoded filtered count, d.scratch.decode v = .ok decoded ∧
      decoded.filter d.thresholds.confidence = .ok filtered ∧
      filtered.suppress d.thresholds.overlap d.tieBreak = .ok (count, after) ∧
      after.resolve v = .ok detections := by
  unfold detectView at h
  obtain ⟨decoded, hdecode, h⟩ := exists_of_bind_eq_ok h
  obtain ⟨filtered, hfilter, h⟩ := exists_of_bind_eq_ok h
  obtain ⟨⟨count, suppressed⟩, hsuppress, h⟩ := exists_of_bind_eq_ok h
  obtain ⟨resolved, hresolve, h⟩ := exists_of_bind_eq_ok h
  cases h
  exact ⟨decoded, filtered, count, hdecode, hfilter, hsuppress, hresolve⟩

theorem Fitted.stepsThrough (h : d.Fitted) {v : View} (hv : v.layout = d.layout) :
    d.StepsThrough v := by
  obtain ⟨scratch, hview, -⟩ := detectView_eq h hv
  obtain ⟨decoded, filtered, count, hsteps⟩ := steps_of_detectView hview
  exact ⟨decoded, filtered, count, scratch, _, hsteps⟩

/-- Bytes are detected, or they are too few. -/
theorem Fitted.detect_ne_broken (h : d.Fitted) (bytes : ByteArray) (fault : Detect.Fault) :
    (d.detect bytes).1 ≠ .error (.broken fault) := by
  rcases Nat.lt_or_ge bytes.size d.layout.tensorSize with short | enough
  · rw [detect_short short]
    simp
  · obtain ⟨d', hdetect, -⟩ := detect_view h (v := ⟨d.layout, bytes, enough⟩) rfl
    rw [hdetect]
    simp

/-! ## Labels -/

/-- A detection of a class of the layout that has a label of its own. -/
structure Names (d : Detector) (x : Detection) : Prop where
  inRange : x.best.index < d.layout.classes
  label : d.labels.get? x.best.index = some (d.label x.best.index)

/-- A detection that is named stays so, as long as layout and labels do. -/
theorem Names.congr {d' : Detector} {x : Detection} (h : d.Names x) (h' : d.Continues d') :
    d'.Names x := by
  refine ⟨h'.layout ▸ h.inRange, ?_⟩
  rw [Detector.label, h'.labels]
  exact h.label

/-- The label of an index for which there is one. -/
theorem get?_eq_some_label {index : Nat} (h : index < d.labels.size) :
    d.labels.get? index = some (d.label index) := by
  have hlt : index < d.labels.names.size := h
  have hget : d.labels.get? index = some d.labels.names[index] := Array.getElem?_eq_getElem hlt
  rw [label, hget, Option.getD_some]

/-- All detections of a tensor are named. -/
theorem names_detections (covers : d.layout.classes ≤ d.labels.size) {v : View}
    (hv : v.layout = d.layout) (thresholds : Thresholds) (tie : Detect.TieBreak) {x : Detection}
    (hx : x ∈ v.detections thresholds tie) : d.Names x := by
  obtain ⟨i, -, rfl⟩ := List.mem_map.1 hx
  have hindex : (v.detection i).best.index < d.layout.classes := hv ▸ v.index_best_lt i
  exact ⟨hindex, get?_eq_some_label (Nat.lt_of_lt_of_le hindex covers)⟩

end FrameDetect.Cycle.Detector

namespace FrameDetect.Cycle.Course

open FrameDetect.Publish (Event)

variable {F : Type} {d : Detector} {course : Course F}

/-- No course ends with a broken precondition. -/
theorem result_ne_broken (course : Course F) (fault : Detect.Fault) :
    course.result d ≠ .error (.broken fault) := by
  cases course <;> simp [result]

/-- What a course publishes is named. -/
theorem names_of_result (covers : d.layout.classes ≤ d.labels.size) (h : course.Fits d)
    {detections : List Detect.Detection} (hresult : course.result d = .ok (.published detections))
    {x : Detect.Detection} (hx : x ∈ detections) : d.Names x := by
  cases course with
  | published frame spent view =>
    cases hresult
    exact Detector.names_detections covers h _ _ hx
  | _ => cases hresult

/-- Each event is that of a detection which is published. -/
theorem detection_of_notify {event : Event} (h : .notify event ∈ course.calls d) :
    ∃ detections, course.result d = .ok (.published detections) ∧ ∃ x ∈ detections,
      event = .rounded (d.label x.best.index) x.best.score x.corners := by
  cases course with
  | published frame spent view =>
    obtain ⟨x, hx, hevent⟩ : ∃ x ∈ view.detections d.thresholds d.tieBreak,
        event = .rounded (d.label x.best.index) x.best.score x.corners := by
      simpa [calls, announcement] using h
    exact ⟨_, rfl, x, hx, hevent⟩
  | _ => simp [calls] at h

/-- A cycle that breaks no precondition, publishes detections of classes with a label only, and sends
events that carry these labels. -/
structure Orderly (d : Detector) (made : List (DeviceCall F)) (result : Except Fault Outcome) :
    Prop where
  unbroken : ∀ fault, result ≠ .error (.broken fault)
  published : ∀ detections, result = .ok (.published detections) → ∀ x ∈ detections, d.Names x
  sent : ∀ event, .notify event ∈ made → ∃ detections, result = .ok (.published detections) ∧
    ∃ x ∈ detections, d.labels.get? x.best.index = some event.label

theorem orderly (covers : d.layout.classes ≤ d.labels.size) (h : course.Fits d) :
    Orderly d (course.calls d) (course.result d) := by
  have hnames : ∀ detections, course.result d = .ok (.published detections) →
      ∀ x ∈ detections, d.Names x :=
    fun _ hresult _ hx => names_of_result covers h hresult hx
  refine ⟨course.result_ne_broken, hnames, fun event hevent => ?_⟩
  obtain ⟨detections, hresult, x, hx, rfl⟩ := detection_of_notify hevent
  exact ⟨detections, hresult, x, hx, (hnames detections hresult x hx).label⟩

end FrameDetect.Cycle.Course
