import FrameDetect.Proofs.Cycle.Protocol
import FrameDetect.Proofs.Run.Counts
import FrameDetect.Run.OneShot

/-!
# Single cycles

A run of one cycle declares the events, takes a course and undeclares them, however the course ends.
-/

namespace FrameDetect.Run.OneShot

open FrameDetect.Cycle (Course Detector Emits Outcome Recorded Surroundings emits_call emits_declare
  emits_log emits_pure emits_run)
open FrameDetect.Detect (Detection)

variable {σ F : Type} {w : Surroundings σ F} {d : Detector}

/-- The result of a run of one cycle, by how the cycle ends. -/
def verdict : Except Cycle.Fault Outcome → Except Fault Summary
  | .error fault => .error (.cycle fault)
  | .ok .sourceLost => .error .noFrame
  | .ok (.skipped stage reason) => .error (.skipped stage reason)
  | .ok (.published detections) => (Summary.empty.record (.published detections)).mapError .overflow

theorem emits_oneShot (h : d.Fitted) :
    Emits (run (Recorded.devices w) d) fun made r =>
      ∃ course : Course F, course.Fits d ∧ made = .declare :: course.calls d ++ [.undeclare] ∧
        r.1 = verdict (course.result d) ∧ d.Continues r.2 := by
  unfold run
  refine (emits_log _ _).bind ?_
  rintro _ _ rfl
  refine emits_declare.bind ?_
  rintro _ _ rfl
  refine (emits_run h).bind ?_
  rintro _ ⟨result, d'⟩ ⟨course, hfits, rfl, hresult, hcontinues⟩
  dsimp only [Recorded.devices]
  refine (emits_call _ _).bind ?_
  rintro _ _ rfl
  refine emits_pure ⟨course, hfits, by simp, ?_, hcontinues⟩
  rw [← hresult]
  rcases result with fault | (detections | ⟨stage, reason⟩ | _) <;> rfl

/-- A run of one cycle that publishes has the summary of what it publishes. -/
theorem verdict_published (detections : List Detection) :
    ∃ summary, Summary.empty.record (.published detections) = .ok summary ∧
      verdict (.ok (.published detections)) = .ok summary ∧ summary.last = detections := by
  obtain ⟨summary, hsummary⟩ := Summary.exists_record_empty (.published detections)
  obtain ⟨-, -, hrest⟩ := Summary.record_published hsummary
  refine ⟨summary, hsummary, ?_, by rw [hrest]⟩
  rw [verdict, hsummary]
  rfl

/-- A run of one cycle has a summary only if the cycle publishes. -/
theorem published_of_verdict {result : Except Cycle.Fault Outcome} {summary : Summary}
    (h : verdict result = .ok summary) : result = .ok (.published summary.last) := by
  rcases result with fault | (detections | ⟨stage, reason⟩ | _)
  · cases h
  · obtain ⟨_, -, hverdict, hlast⟩ := verdict_published detections
    cases h.symm.trans hverdict
    rw [hlast]
  · cases h
  · cases h

end FrameDetect.Run.OneShot
