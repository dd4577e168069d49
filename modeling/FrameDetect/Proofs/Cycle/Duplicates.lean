import FrameDetect.Proofs.Cycle.Reachable
import FrameDetect.Proofs.Tensor.Dequantization

/-!
# Duplicates

Of rows that report the same box only one is left, if the box has a size and the overlap threshold is not
above 99 %.  Rounding does not help duplicates to survive.
-/

namespace FrameDetect.Tensor.View

open FrameDetect.Detect (TieBreak overlap pairwise_contest)
open FrameDetect.Number (le_trans_lt)
open FrameDetect.Settings (Thresholds)

variable (v : View)

/-- Two rows with the same four bytes for their boxes, where the size is above the zero point. -/
structure Duplicate (zero : UInt8) (i j : Fin v.rows) : Prop where
  same : ∀ k : Fin boxFields, k < 4 → v.boxByte i k = v.boxByte j k
  wide : zero < v.boxByte i 2
  tall : zero < v.boxByte i 3

/-- No two rows that are left overlap by more than the threshold. -/
theorem winners_apart (thresholds : Thresholds) (tie : TieBreak) :
    (v.winners thresholds tie).Pairwise fun i j => v.clash thresholds.overlap i j = false :=
  pairwise_contest _

/-- Duplicates overlap by more than a threshold of at most 99 %. -/
theorem Duplicate.clash_eq_true {v : View} {zero : UInt8} (h : v.layout.quantization.Whole zero)
    {threshold : Float32} (hthreshold : threshold ≤ 0.99) {i j : Fin v.rows}
    (duplicate : v.Duplicate zero i j) : v.clash threshold i j = true := by
  obtain ⟨w, t, moderate⟩ := moderate_box h duplicate.wide duplicate.tall
  rw [clash, decide_eq_true_eq, ← box_congr duplicate.same]
  exact le_trans_lt hthreshold moderate.lt_overlap_self

/-- No two detections come from duplicates. -/
theorem no_duplicates {v : View} {zero : UInt8} (h : v.layout.quantization.Whole zero)
    {thresholds : Thresholds} (hoverlap : thresholds.overlap ≤ 0.99) (tie : TieBreak) :
    (v.detections thresholds tie).Pairwise fun x y => ∀ i j : Fin v.rows, x.index = i.val →
      y.index = j.val → ¬v.Duplicate zero i j := by
  refine List.pairwise_map.2 ((v.winners_apart thresholds tie).imp ?_)
  intro a b hapart i j hi hj duplicate
  obtain rfl : a = i := Fin.ext hi
  obtain rfl : b = j := Fin.ext hj
  exact Bool.false_ne_true (hapart.symm.trans (duplicate.clash_eq_true h hoverlap))

end FrameDetect.Tensor.View

namespace FrameDetect.Cycle

open FrameDetect.Detect (overlap)
open FrameDetect.Settings (Thresholds)
open FrameDetect.Tensor (Layout Manifest View)

/-- Under a whole zero point and a scale from `2 ^ (-20)` to one, no two detections come from duplicates, as
every box with a size overlaps itself by more than 99 %. -/
theorem duplicates_never_survive {d : Detector} (h : d.Reachable) {zero : UInt8}
    (hq : d.layout.quantization.Whole zero) (hoverlap : d.thresholds.overlap ≤ 0.99) {v : View}
    (hv : v.layout = d.layout) :
    (∃ detections, (d.detect v.bytes).1 = .ok detections ∧
      detections.Pairwise fun x y => ∀ i j : Fin v.rows, x.index = i.val → y.index = j.val →
        ¬v.Duplicate zero i j) ∧
    ∀ i, zero < v.boxByte i 2 → zero < v.boxByte i 3 → 0.99 < overlap (v.box i) (v.box i) := by
  rw [← hv] at hq
  constructor
  · obtain ⟨after, hdetect, -⟩ := Detector.detect_view h.fitted hv
    exact ⟨_, congrArg Prod.fst hdetect, View.no_duplicates hq hoverlap d.tieBreak⟩
  · intro i wide tall
    obtain ⟨w, t, moderate⟩ := View.moderate_box hq wide tall
    exact moderate.lt_overlap_self

/-- A manifest of two rows with one class. -/
def twoRows : Manifest := ⟨640, 640, 0.5, 4, 1, 2⟩

/-- A tensor whose two rows report the same box. -/
def twoRowsView : View :=
  ⟨⟨640, 640, ⟨0.5, 4⟩, 1, 2, Nat.one_pos, by decide, by decide⟩,
    ⟨#[9, 9, 6, 6, 200, 7, 9, 9, 6, 6, 100, 8]⟩, by decide⟩

/-- A new detector for tensors of two rows. -/
def Detector.twoRows : Detector :=
  { layout := twoRowsView.layout, labels := ⟨#["person"]⟩, thresholds := ⟨0.5, 0.25⟩
    tieBreak := .later, scratch := .ofLayout twoRowsView.layout }

theorem duplicates_never_survive_twoRows :
    Detector.twoRows.Reachable ∧ twoRowsView.Duplicate 4 ⟨0, by decide⟩ ⟨1, by decide⟩ ∧
    (∃ detections, (Detector.twoRows.detect twoRowsView.bytes).1 = .ok detections ∧
      detections.Pairwise fun x y => ∀ i j : Fin twoRowsView.rows, x.index = i.val → y.index = j.val →
        ¬twoRowsView.Duplicate 4 i j) ∧
    0.99 < overlap (twoRowsView.box ⟨0, by decide⟩) (twoRowsView.box ⟨0, by decide⟩) := by
  have layout : Layout.ofManifest twoRows = .ok twoRowsView.layout := rfl
  have thresholds : Thresholds.ofNumbers 0.5 0.25 = .ok ⟨0.5, 0.25⟩ := rfl
  have detector : Detector.ofSettings twoRowsView.layout ⟨#["person"]⟩ ⟨0.5, 0.25⟩ .later =
      .ok .twoRows := rfl
  have reachable : Detector.twoRows.Reachable := .ofSettings layout thresholds detector
  have whole : Detector.twoRows.layout.quantization.Whole 4 := ⟨by decide, by decide, by decide⟩
  obtain ⟨apart, lower⟩ :=
    duplicates_never_survive (v := twoRowsView) reachable whole (by decide) rfl
  refine ⟨reachable, ⟨?_, by decide, by decide⟩, apart, lower _ (by decide) (by decide)⟩
  decide

end FrameDetect.Cycle
