import FrameDetect.Proofs.Cycle.Reachable

/-!
# What cycles publish

A cycle that reads a tensor with enough bytes publishes the detections of the tensor, whatever its
scratch space was left with by the frames before.
-/

namespace FrameDetect.Cycle

open FrameDetect.Tensor (View fourRowsView)

variable {σ F : Type} {d : Detector}

/-- A course on which a whole tensor is read publishes its detections. -/
theorem Course.result_of_output {course : Course F} (h : course.Fits d) {v : View}
    (hv : v.layout = d.layout) (read : .output 0 (.ok v.bytes) ∈ course.calls d) :
    course.result d = .ok (.published (v.detections d.thresholds d.tieBreak)) := by
  cases course with
  | malformed frame spent bytes =>
    have hbytes : v.bytes = bytes := by simpa [calls] using read
    have enough := v.enough
    rw [hv, hbytes] at enough
    exact absurd enough (Nat.not_le_of_lt h)
  | published frame spent view =>
    have hbytes : v.bytes = view.bytes := by simpa [calls, announcement] using read
    rw [View.eq_of_bytes (hv.trans h.symm) hbytes]
    rfl
  | _ => simp [calls] at read

/-- A course that publishes reads a whole tensor. -/
theorem Course.output_of_result {course : Course F} (h : course.Fits d)
    {detections : List Detect.Detection} (hresult : course.result d = .ok (.published detections)) :
    ∃ v : View, v.layout = d.layout ∧ .output 0 (.ok v.bytes) ∈ course.calls d ∧
      detections = v.detections d.thresholds d.tieBreak := by
  cases course with
  | published frame spent view =>
    cases hresult
    exact ⟨view, h, by simp [calls], rfl⟩
  | _ => cases hresult

/-- A cycle publishes the detections of the tensor that it reads: the winners among the rows that are not
below the confidence threshold, each resolved, in the order of the rows.  Rows below the threshold have
no influence on which of the others are published. -/
theorem published_eq_detections (h : d.Reachable) :
    (∀ v : View, v.layout = d.layout →
      (d.detect v.bytes).1 = .ok (v.detections d.thresholds d.tieBreak)) ∧
    (∀ {σ F : Type} (w : Surroundings σ F) (s : Scene σ F), ∃ new,
      ((run (Recorded.devices w) d).run s).2.past = s.past ++ new ∧
      (∀ v : View, v.layout = d.layout → .output 0 (.ok v.bytes) ∈ calls new →
        ((run (Recorded.devices w) d).run s).1.1 =
          .ok (.published (v.detections d.thresholds d.tieBreak))) ∧
      ∀ detections, ((run (Recorded.devices w) d).run s).1.1 = .ok (.published detections) →
        ∃ v : View, v.layout = d.layout ∧ .output 0 (.ok v.bytes) ∈ calls new ∧
          detections = v.detections d.thresholds d.tieBreak) ∧
    ∀ v v' : View, v.layout = d.layout → v'.layout = d.layout →
      (v.candidates d.thresholds.confidence).map v.entry =
        (v'.candidates d.thresholds.confidence).map v'.entry →
      (v.detections d.thresholds d.tieBreak).map (·.index) =
        (v'.detections d.thresholds d.tieBreak).map (·.index) := by
  have hfit := h.fitted
  refine ⟨fun v hv => ?_, fun w s => ?_, fun v v' hv hv' same => ?_⟩
  · obtain ⟨d', hdetect, -⟩ := Detector.detect_view hfit hv
    rw [hdetect]
  · obtain ⟨new, hext, -, course, hfits, hcalls, hresult, -⟩ := emits_run (w := w) hfit s
    refine ⟨new, hext.past, ?_, ?_⟩
    · rw [hcalls, hresult]
      exact fun v hv => Course.result_of_output hfits hv
    · rw [hcalls, hresult]
      exact fun detections => Course.output_of_result hfits
  · exact View.index_detections_congr (hv ▸ hfit.quantization) (hv' ▸ hfit.quantization) hfit.overlap
      d.tieBreak same

/-- The tensors that are read, each with the output that it is from. -/
def readings {F : Type} (made : List (DeviceCall F)) : List (Nat × Array UInt8) :=
  made.filterMap fun
    | .output index (.ok tensor) => some (index, tensor.data)
    | _ => none

theorem mem_readings {F : Type} {made : List (DeviceCall F)} {index : Nat} {tensor : ByteArray} :
    (index, tensor.data) ∈ readings made ↔ .output index (.ok tensor) ∈ made := by
  unfold readings
  rw [List.mem_filterMap]
  constructor
  · rintro ⟨call, hcall, hreading⟩
    split at hreading
    next bytes =>
      simp only [Option.some.injEq, Prod.mk.injEq] at hreading
      obtain ⟨rfl, hdata⟩ := hreading
      exact ByteArray.ext hdata ▸ hcall
    next => cases hreading
  · intro hmem
    exact ⟨_, hmem, rfl⟩

/-- The cycle over four rows reads their tensor once, and nothing else. -/
theorem readings_fourRows :
    readings (calls ((run (Recorded.devices (.steady fourRowsView.bytes)) .fourRows).run (.opening 1)).2.past) =
      [(0, fourRowsView.bytes.data)] := by decide +kernel

/-- Of four rows one is below the threshold, and one gives way to its neighbour. -/
theorem published_eq_detections_fourRows :
    let found := [fourRowsView.detection ⟨1, by decide⟩, fourRowsView.detection ⟨3, by decide⟩]
    Detector.fourRows.Reachable ∧
    (fourRowsView.candidates Detector.fourRows.thresholds.confidence).map Fin.val = [0, 1, 3] ∧
    (Detector.fourRows.detect fourRowsView.bytes).1 = .ok found ∧
    ((run (Recorded.devices (.steady fourRowsView.bytes)) .fourRows).run (.opening 1)).1.1 =
      .ok (.published found) := by
  intro found
  obtain ⟨hdetect, hcycle, -⟩ := published_eq_detections Detector.reachable_fourRows
  obtain ⟨new, hpast, hread, -⟩ := hcycle (.steady fourRowsView.bytes) (.opening 1)
  have hwinners : fourRowsView.winners Detector.fourRows.thresholds .later =
      [⟨1, by decide⟩, ⟨3, by decide⟩] := by decide +kernel
  have hfound : fourRowsView.detections Detector.fourRows.thresholds .later = found :=
    congrArg (List.map _) hwinners
  have houtput : .output 0 (.ok fourRowsView.bytes) ∈
      calls ((run (Recorded.devices (.steady fourRowsView.bytes)) .fourRows).run (.opening 1)).2.past := by
    rw [← mem_readings, readings_fourRows]
    exact List.mem_singleton_self _
  rw [hpast] at houtput
  refine ⟨Detector.reachable_fourRows, by decide +kernel, ?_, ?_⟩
  · rw [← hfound]
    exact hdetect fourRowsView rfl
  · rw [← hfound]
    exact hread fourRowsView rfl houtput

end FrameDetect.Cycle
