import FrameDetect.Cycle.Detector
import FrameDetect.Proofs.Detect.Reference
import FrameDetect.Proofs.Settings.Checked

/-!
# Detectors whose scratch space fits

A detector fits if its scratch space has a place for each row of its layout and its numbers passed their
checks.  Then no step of the pipeline is given data of the wrong size: a tensor with enough bytes has
detections, a shorter one is malformed, and the detector fits again afterwards.
-/

namespace FrameDetect.Cycle.Detector

open FrameDetect.Detect (Scratch resolveRow)
open FrameDetect.Settings (Thresholds)
open FrameDetect.Tensor (Layout Manifest ShortTensor View)

/-- A detector with scratch space for its layout and with usable numbers. -/
structure Fitted (d : Detector) : Prop where
  rows : d.scratch.rows.size = d.layout.rows
  mask : d.scratch.mask.size = d.layout.rows
  quantization : d.layout.quantization.Usable
  overlap : d.thresholds.overlap.isNaN = false

/-- What a cycle leaves of a detector: all of its settings, and scratch space that fits. -/
structure Continues (d d' : Detector) : Prop where
  layout : d'.layout = d.layout
  labels : d'.labels = d.labels
  thresholds : d'.thresholds = d.thresholds
  tieBreak : d'.tieBreak = d.tieBreak
  fitted : d'.Fitted

theorem Fitted.continues {d : Detector} (h : d.Fitted) : d.Continues d :=
  ⟨rfl, rfl, rfl, rfl, h⟩

theorem Continues.trans {d d' d'' : Detector} (h : d.Continues d') (h' : d'.Continues d'') :
    d.Continues d'' :=
  ⟨h'.layout.trans h.layout, h'.labels.trans h.labels, h'.thresholds.trans h.thresholds,
    h'.tieBreak.trans h.tieBreak, h'.fitted⟩

/-- Checked thresholds are numbers. -/
theorem isNaN_overlap_of_ofNumbers {confidence overlap : Float32} {thresholds : Thresholds}
    (h : Thresholds.ofNumbers confidence overlap = .ok thresholds) :
    thresholds.overlap.isNaN = false :=
  (Thresholds.checked_of_ofNumbers h).overlap.isNaN

/-- A new detector fits. -/
theorem fitted_of_ofSettings {m : Manifest} {layout : Layout} {labels : Labels}
    {thresholds : Thresholds} {tie : Detect.TieBreak} {d : Detector}
    (hm : Layout.ofManifest m = .ok layout) (ht : thresholds.overlap.isNaN = false)
    (hd : Detector.ofSettings layout labels thresholds tie = .ok d) : d.Fitted := by
  unfold Detector.ofSettings at hd
  cases hc : labels.ensureCovers layout.classes with
  | error cause =>
    rw [hc] at hd
    cases hd
  | ok covers =>
    rw [hc] at hd
    cases hd
    exact ⟨Array.size_replicate, Detect.Mask.size_clear _, Layout.usable_of_ofManifest hm, ht⟩

/-- A new detector has a label for each class. -/
theorem classes_le_of_ofSettings {layout : Layout} {labels : Labels} {thresholds : Thresholds}
    {tie : Detect.TieBreak} {d : Detector}
    (hd : Detector.ofSettings layout labels thresholds tie = .ok d) :
    d.layout.classes ≤ d.labels.size := by
  unfold Detector.ofSettings Labels.ensureCovers at hd
  by_cases hfew : labels.size < layout.classes
  · rw [if_pos hfew] at hd
    cases hd
  · rw [if_neg hfew] at hd
    cases hd
    exact Nat.le_of_not_lt hfew

theorem thresholds_of_ofSettings {layout : Layout} {labels : Labels} {thresholds : Thresholds}
    {tie : Detect.TieBreak} {d : Detector}
    (hd : Detector.ofSettings layout labels thresholds tie = .ok d) : d.thresholds = thresholds := by
  unfold Detector.ofSettings at hd
  cases hc : labels.ensureCovers layout.classes with
  | error cause =>
    rw [hc] at hd
    cases hd
  | ok covers =>
    rw [hc] at hd
    cases hd
    rfl

/-- Settings with a label for each class make a detector. -/
theorem ofSettings_eq_ok {layout : Layout} {labels : Labels} (thresholds : Thresholds)
    (tie : Detect.TieBreak) (covers : layout.classes ≤ labels.size) :
    Detector.ofSettings layout labels thresholds tie =
      .ok ⟨layout, labels, thresholds, tie, .ofLayout layout⟩ := by
  unfold Detector.ofSettings Labels.ensureCovers
  rw [if_neg (Nat.not_lt_of_le covers)]

theorem Fitted.withThresholds {d : Detector} (h : d.Fitted) {thresholds : Thresholds}
    (ht : thresholds.overlap.isNaN = false) : { d with thresholds }.Fitted :=
  ⟨h.rows, h.mask, h.quantization, ht⟩

/-! ## The detections in a tensor -/

/-- The pipeline gives the detections of the tensor, and keeps the size of the scratch space. -/
theorem detectView_eq {d : Detector} (h : d.Fitted) {v : View} (hv : v.layout = d.layout) :
    ∃ scratch, d.detectView v = .ok (v.detections d.thresholds d.tieBreak, scratch) ∧
      scratch.rows.size = d.layout.rows ∧ scratch.mask.size = d.layout.rows := by
  have hsize : v.rows = d.layout.rows := congrArg Layout.rows hv
  have hdecode : (Array.ofFn v.row).size = d.scratch.mask.size := by
    rw [Array.size_ofFn, h.mask, hsize]
  obtain ⟨filtered, hfilter, hfiltered, hkept⟩ :=
    Detect.filterConfidence_eq d.thresholds.confidence hdecode
  have hfit := hdecode.trans hfiltered.symm
  obtain ⟨count, mask, hsuppress, hmask, hleft⟩ :=
    Detect.suppress_eq_contest d.thresholds.overlap d.tieBreak hfit
  have hfit' := hfit.trans hmask.symm
  have hsurvivors : mask.survivors = (v.winners d.thresholds d.tieBreak).map Fin.val := by
    rw [mask.survivors_eq hfit', hleft, hkept,
      v.contest_row h.overlap (hv ▸ h.quantization), List.map_map]
    rfl
  have hresolve : (Scratch.mk (Array.ofFn v.row) mask).resolve v =
      .ok (v.detections d.thresholds d.tieBreak) := by
    rw [Scratch.resolve, hsurvivors, v.mapM_resolveRow, View.detections]
  refine ⟨⟨Array.ofFn v.row, mask⟩, ?_, ?_, ?_⟩
  · simp only [detectView, Scratch.decode, hsize, h.rows, Scratch.filter, hfilter, Scratch.suppress,
      hsuppress, hresolve, if_true, Except.map, bind, Except.bind, pure, Except.pure]
  · rw [Array.size_ofFn, hsize]
  · rw [← hfit', Array.size_ofFn, hsize]

/-- A tensor with enough bytes has detections. -/
theorem detect_view {d : Detector} (h : d.Fitted) {v : View} (hv : v.layout = d.layout) :
    ∃ d', d.detect v.bytes = (.ok (v.detections d.thresholds d.tieBreak), d') ∧ d.Continues d' := by
  obtain ⟨layout, bytes, enough⟩ := v
  obtain rfl : layout = d.layout := hv
  obtain ⟨scratch, hview, hrows, hmask⟩ := detectView_eq h (v := ⟨d.layout, bytes, enough⟩) rfl
  refine ⟨{ d with scratch }, ?_, rfl, rfl, rfl, rfl, hrows, hmask, h.quantization, h.overlap⟩
  rw [detect, View.ofBytes, dif_pos enough]
  dsimp only
  rw [hview]

/-- A tensor with too few bytes is malformed, and the detector stays as it is. -/
theorem detect_short {d : Detector} {bytes : ByteArray} (short : bytes.size < d.layout.tensorSize) :
    d.detect bytes = (.error (.malformedTensor ⟨d.layout.tensorSize, bytes.size⟩), d) := by
  rw [detect, View.ofBytes, dif_neg (Nat.not_le_of_lt short)]

end FrameDetect.Cycle.Detector
