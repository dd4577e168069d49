import FrameDetect.Proofs.Cycle.Protocol

/-!
# Detectors that come about

A detector comes from settings that passed their checks, runs cycles and is given other thresholds.
Every such detector fits, whatever devices it has met.
-/

namespace FrameDetect.Cycle

open FrameDetect.Detect (TieBreak)
open FrameDetect.Settings (Thresholds)
open FrameDetect.Tensor (Layout Manifest fourRowsView oneRowView)

/-- A detector after any number of cycles and changes of thresholds, in any surroundings. -/
inductive Detector.Reachable : Detector → Prop
  | ofSettings {m : Manifest} {layout : Layout} {labels : Labels} {confidence overlap : Float32}
      {thresholds : Thresholds} {tie : TieBreak} {d : Detector} :
      Layout.ofManifest m = .ok layout → Thresholds.ofNumbers confidence overlap = .ok thresholds →
      Detector.ofSettings layout labels thresholds tie = .ok d → Reachable d
  | run {σ F : Type} (w : Surroundings σ F) (s : Scene σ F) {d : Detector} :
      Reachable d → Reachable ((run (Recorded.devices w) d).run s).1.2
  | setThresholds {σ F : Type} (w : Surroundings σ F) (s : Scene σ F) {confidence overlap : Float32}
      {thresholds : Thresholds} {d : Detector} :
      Thresholds.ofNumbers confidence overlap = .ok thresholds → Reachable d →
      Reachable ((setThresholds d thresholds : Recorded w Detector).run s).1

theorem Detector.Reachable.fitted {d : Detector} (h : d.Reachable) : d.Fitted := by
  induction h with
  | ofSettings hm ht hd => exact fitted_of_ofSettings hm (isNaN_overlap_of_ofNumbers ht) hd
  | run w s _ ih =>
    obtain ⟨new, -, -, course, -, -, -, hcontinues⟩ := emits_run ih s
    exact hcontinues.fitted
  | setThresholds w s ht _ ih =>
    obtain ⟨new, -, -, -, heq⟩ := emits_setThresholds _ _ s
    rw [heq]
    exact ih.withThresholds (isNaN_overlap_of_ofNumbers ht)

/-- There is a label for each class, whatever has happened. -/
theorem Detector.Reachable.covers {d : Detector} (h : d.Reachable) :
    d.layout.classes ≤ d.labels.size := by
  induction h with
  | ofSettings _ _ hd => exact classes_le_of_ofSettings hd
  | run w s hd ih =>
    obtain ⟨new, -, -, course, -, -, -, hcontinues⟩ := emits_run hd.fitted s
    rw [hcontinues.layout, hcontinues.labels]
    exact ih
  | setThresholds w s _ _ ih =>
    obtain ⟨new, -, -, -, heq⟩ := emits_setThresholds _ _ s
    rw [heq]
    exact ih

/-- Thresholds have passed their checks, whenever they were set. -/
theorem Detector.Reachable.checked {d : Detector} (h : d.Reachable) : d.thresholds.Checked := by
  induction h with
  | ofSettings _ ht hd =>
    rw [thresholds_of_ofSettings hd]
    exact Thresholds.checked_of_ofNumbers ht
  | run w s hd ih =>
    obtain ⟨new, -, -, course, -, -, -, hcontinues⟩ := emits_run hd.fitted s
    rw [hcontinues.thresholds]
    exact ih
  | setThresholds w s ht _ _ =>
    obtain ⟨new, -, -, -, heq⟩ := emits_setThresholds _ _ s
    rw [heq]
    exact Thresholds.checked_of_ofNumbers ht

/-- A new detector for tensors of one row. -/
def Detector.oneRow : Detector :=
  { layout := oneRowView.layout, labels := ⟨#["person"]⟩, thresholds := ⟨0.5, 0.25⟩
    tieBreak := .later, scratch := .ofLayout oneRowView.layout }

theorem Detector.reachable_oneRow : Detector.oneRow.Reachable := by
  have layout : Layout.ofManifest Tensor.oneRow = .ok oneRowView.layout := rfl
  have thresholds : Thresholds.ofNumbers 0.5 0.25 = .ok ⟨0.5, 0.25⟩ := rfl
  have detector : Detector.ofSettings oneRowView.layout ⟨#["person"]⟩ ⟨0.5, 0.25⟩ .later =
      .ok .oneRow := rfl
  exact .ofSettings layout thresholds detector

/-- A new detector for tensors of four rows. -/
def Detector.fourRows : Detector :=
  { layout := fourRowsView.layout, labels := ⟨#["person"]⟩, thresholds := ⟨0.5, 0.25⟩
    tieBreak := .later, scratch := .ofLayout fourRowsView.layout }

theorem Detector.reachable_fourRows : Detector.fourRows.Reachable := by
  have layout : Layout.ofManifest Tensor.fourRows = .ok fourRowsView.layout := rfl
  have thresholds : Thresholds.ofNumbers 0.5 0.25 = .ok ⟨0.5, 0.25⟩ := rfl
  have detector : Detector.ofSettings fourRowsView.layout ⟨#["person"]⟩ ⟨0.5, 0.25⟩ .later =
      .ok .fourRows := rfl
  exact .ofSettings layout thresholds detector

end FrameDetect.Cycle
