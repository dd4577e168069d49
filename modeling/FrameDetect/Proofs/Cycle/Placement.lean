import FrameDetect.Proofs.Cycle.Published
import FrameDetect.Proofs.Detect.Clamping

/-!
# Where detections are placed

The edges of a published detection lie in the frame, unless the scale is so large that both the centre and
the size of its box overflow.  One of its edges is then not a number, and stays so.
-/

namespace FrameDetect.Tensor.View

open FrameDetect.Detect (Detection TieBreak spans_clampUnit)
open FrameDetect.Settings (Thresholds)

variable {v : View}

/-- The edges of a detection are those of the box in its row, and all lie in the frame just if that box is
bounded. -/
structure Places (v : View) (x : Detection) (i : Fin v.rows) : Prop where
  index : x.index = i
  frame : x.corners.Frame (v.box i)
  bounded : (∀ edge ∈ x.corners.toList, 0 ≤ edge ∧ edge ≤ 1) ↔ (v.box i).Bounded

theorem places_detection (h : v.layout.quantization.Usable) (i : Fin v.rows) :
    v.Places (v.detection i) i := by
  have hframe : (v.box i).corners.Frame (v.box i) :=
    ⟨spans_clampUnit (v.isNaN_field h i _) (v.isNaN_field h i _),
      spans_clampUnit (v.isNaN_field h i _) (v.isNaN_field h i _)⟩
  exact ⟨rfl, hframe, hframe.forall_mem_iff⟩

theorem places_detections (h : v.layout.quantization.Usable) (thresholds : Thresholds) (tie : TieBreak) :
    ∀ x ∈ v.detections thresholds tie, ∃ i, v.Places x i := by
  intro x hx
  obtain ⟨i, -, rfl⟩ := List.mem_map.1 hx
  exact ⟨i, places_detection h i⟩

end FrameDetect.Tensor.View

namespace FrameDetect.Cycle

open FrameDetect.Settings (Thresholds)
open FrameDetect.Tensor (Layout Manifest View oneRowView)

/-- The edges of every detection, and of everything that a cycle publishes, lie in the frame and in order,
except that a box whose centre and size both overflow along an axis has an edge there that is not a
number. -/
theorem edges_lie_in_frame {d : Detector} (h : d.Reachable) :
    (∀ v : View, v.layout = d.layout → ∃ detections, (d.detect v.bytes).1 = .ok detections ∧
      ∀ x ∈ detections, ∃ i, v.Places x i) ∧
    ∀ {σ F : Type} (w : Surroundings σ F) (s : Scene σ F) (detections : List Detect.Detection),
      ((run (Recorded.devices w) d).run s).1.1 = .ok (.published detections) →
      ∃ v : View, v.layout = d.layout ∧ ∀ x ∈ detections, ∃ i, v.Places x i := by
  have hfit := h.fitted
  refine ⟨fun v hv => ?_, fun w s detections hpublished => ?_⟩
  · obtain ⟨after, hdetect, -⟩ := Detector.detect_view hfit hv
    exact ⟨_, congrArg Prod.fst hdetect, View.places_detections (hv ▸ hfit.quantization) _ _⟩
  · obtain ⟨new, -, -, course, hfits, -, hresult, -⟩ := emits_run (w := w) hfit s
    obtain ⟨v, hv, -, rfl⟩ := Course.output_of_result hfits (hresult.symm.trans hpublished)
    exact ⟨v, hv, View.places_detections (hv ▸ hfit.quantization) _ _⟩

theorem edges_lie_in_frame_oneRow :
    Detector.oneRow.Reachable ∧
    ((run (Recorded.devices (.steady oneRowView.bytes)) .oneRow).run (.opening 1)).1.1 =
      .ok (.published [oneRowView.detection ⟨0, by decide⟩]) ∧
    (∃ detections, (Detector.oneRow.detect oneRowView.bytes).1 = .ok detections ∧
      ∀ x ∈ detections, ∃ i, oneRowView.Places x i) ∧
    ∃ v : View, v.layout = Detector.oneRow.layout ∧
      ∀ x ∈ [oneRowView.detection ⟨0, by decide⟩], ∃ i, v.Places x i := by
  obtain ⟨hdetect, hcycle⟩ := edges_lie_in_frame Detector.reachable_oneRow
  have published : ((run (Recorded.devices (.steady oneRowView.bytes)) .oneRow).run (.opening 1)).1.1 =
      .ok (.published [oneRowView.detection ⟨0, by decide⟩]) := by decide +kernel
  exact ⟨Detector.reachable_oneRow, published, hdetect oneRowView rfl, hcycle _ _ _ published⟩

/-- A manifest whose scale is `2 ^ 125`. -/
def largeScale : Manifest := ⟨640, 640, .ofBits 0x7e000000, 0, 1, 1⟩

/-- A tensor with the greatest bytes for a centre and a width, which overflow under the large scale. -/
def largeScaleView : View :=
  ⟨⟨640, 640, ⟨.ofBits 0x7e000000, 0⟩, 1, 1, Nat.one_pos, Nat.one_pos, oneRowView.layout.fits⟩,
    ⟨#[255, 0, 255, 0, 255, 1]⟩, by decide⟩

/-- A new detector for tensors of the large scale. -/
def Detector.largeScale : Detector :=
  { layout := largeScaleView.layout, labels := ⟨#["person"]⟩, thresholds := ⟨0.5, 0.25⟩
    tieBreak := .later, scratch := .ofLayout largeScaleView.layout }

/-- Under the large scale the left edge of a published box is not a number, although its width is positive. -/
theorem published_edge_isNaN :
    Detector.largeScale.Reachable ∧
    ∃ x, ((run (Recorded.devices (.steady largeScaleView.bytes)) .largeScale).run (.opening 1)).1.1 =
        .ok (.published [x]) ∧
      x.corners.left.isNaN = true ∧ ¬(0 ≤ x.corners.left ∧ x.corners.left ≤ 1) ∧
      0 ≤ (largeScaleView.box ⟨0, by decide⟩).width ∧ ¬x.corners.left ≤ x.corners.right := by
  have layout : Layout.ofManifest largeScale = .ok largeScaleView.layout := rfl
  have thresholds : Thresholds.ofNumbers 0.5 0.25 = .ok ⟨0.5, 0.25⟩ := rfl
  have detector : Detector.ofSettings largeScaleView.layout ⟨#["person"]⟩ ⟨0.5, 0.25⟩ .later =
      .ok .largeScale := rfl
  refine ⟨.ofSettings layout thresholds detector, largeScaleView.detection ⟨0, by decide⟩, ?_, ?_⟩
  · decide +kernel
  · decide

end FrameDetect.Cycle
