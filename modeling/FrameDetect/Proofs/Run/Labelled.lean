import FrameDetect.Program.Report
import FrameDetect.Proofs.Cycle.Unbroken
import FrameDetect.Proofs.Run.OneShot

/-!
# Nothing breaks and everything is named

Whatever a detector has been through, its next cycle breaks no precondition, every event carries the name
that the labels have for the class of its detection, and so does every entry of a report.
-/

namespace FrameDetect.Run

open FrameDetect.Cycle (Course Detector Recorded Scene Surroundings calls emits_run)
open FrameDetect.Program (labelledDetection wideDetection)
open FrameDetect.Run.OneShot (emits_oneShot published_of_verdict)
open FrameDetect.Tensor (View oneRowView)

variable {d : Detector}

/-- A named detection is reported with its name. -/
theorem labelledDetection_eq {x : Detect.Detection} (h : d.Names x) :
    labelledDetection d.labels x =
      .sorted [("label", .text (d.label x.best.index)), ("detection", wideDetection x)] := by
  rw [labelledDetection, h.label]

/-- The scratch space of a detector with any history has a place for each row, so no step of the pipeline
breaks on any tensor.  All that is published, sent or reported is named by the labels. -/
theorem nothing_breaks_and_all_is_named (h : d.Reachable) :
    d.scratch.rows.size = d.layout.rows ∧ d.scratch.mask.size = d.layout.rows ∧
    (∀ v : View, v.layout = d.layout → d.StepsThrough v) ∧
    (∀ bytes fault, (d.detect bytes).1 ≠ .error (.broken fault)) ∧
    ∀ {σ F : Type} (w : Surroundings σ F) (s : Scene σ F),
      (∃ new, ((Cycle.run (Recorded.devices w) d).run s).2.past = s.past ++ new ∧
        Course.Orderly d (calls new) ((Cycle.run (Recorded.devices w) d).run s).1.1) ∧
      ∀ summary d', ((OneShot.run (Recorded.devices w) d).run s).1 = (.ok summary, d') →
        ∀ x ∈ summary.last, ∃ name, d'.labels.get? x.best.index = some name ∧
          labelledDetection d'.labels x =
            .sorted [("label", .text name), ("detection", wideDetection x)] := by
  have hfit := h.fitted
  refine ⟨hfit.rows, hfit.mask, fun v hv => hfit.stepsThrough hv, hfit.detect_ne_broken,
    fun w s => ⟨?_, ?_⟩⟩
  · obtain ⟨new, hext, -, course, hfits, hcalls, hresult, -⟩ := emits_run (w := w) hfit s
    refine ⟨new, hext.past, ?_⟩
    rw [hcalls, hresult]
    exact Course.orderly h.covers hfits
  · intro summary d' hrun x hx
    obtain ⟨new, -, -, course, hfits, -, hresult, hcontinues⟩ := emits_oneShot (w := w) hfit s
    rw [hrun] at hresult hcontinues
    have hnames : d'.Names x :=
      (Course.names_of_result h.covers hfits (published_of_verdict hresult.symm) hx).congr hcontinues
    exact ⟨_, hnames.label, labelledDetection_eq hnames⟩

/-- One tensor with one row. -/
theorem nothing_breaks_and_all_is_named_oneRow :
    Detector.oneRow.Reachable ∧ Detector.oneRow.StepsThrough oneRowView ∧
      ∃ new, ((Cycle.run (Recorded.devices (.steady oneRowView.bytes)) .oneRow).run
          (.opening 1)).2.past = (Scene.opening 1 : Scene Nat Nat).past ++ new ∧
        Course.Orderly .oneRow (calls new)
          ((Cycle.run (Recorded.devices (.steady oneRowView.bytes)) .oneRow).run (.opening 1)).1.1 := by
  obtain ⟨-, -, hsteps, -, hcycle⟩ := nothing_breaks_and_all_is_named Detector.reachable_oneRow
  exact ⟨Detector.reachable_oneRow, hsteps oneRowView rfl,
    (hcycle (.steady oneRowView.bytes) (.opening 1)).1⟩

end FrameDetect.Run
