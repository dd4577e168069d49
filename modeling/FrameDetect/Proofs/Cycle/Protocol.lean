import FrameDetect.Proofs.Cycle.Emission
import FrameDetect.Proofs.Cycle.Fitted

/-!
# The protocol of a cycle

However devices behave, a cycle takes one of six courses.  Each course fixes the calls of the cycle, from
the first to the last, and how it ends.
-/

namespace FrameDetect.Cycle

open FrameDetect.Detect (Detection)
open FrameDetect.Publish (Event)
open FrameDetect.Tensor (View)
open FrameDetect.Time (Duration)

/-- What decides how a cycle goes. -/
inductive Course (F : Type) where
  /-- The source has no more frames. -/
  | lost
  /-- The model fails to prepare the frame. -/
  | notPrepared (frame : F) (reason : String)
  /-- The model fails to run on the frame. -/
  | notInferred (frame : F) (reason : String)
  /-- The model has no tensor. -/
  | noOutput (frame : F) (spent : Duration) (reason : String)
  /-- The tensor has too few bytes. -/
  | malformed (frame : F) (spent : Duration) (bytes : ByteArray)
  /-- The tensor has enough bytes. -/
  | published (frame : F) (spent : Duration) (view : View)

namespace Course

variable {F : Type} (d : Detector)

/-- Whether a tensor is as long as its course says. -/
def Fits : Course F → Prop
  | malformed _ _ bytes => bytes.size < d.layout.tensorSize
  | published _ _ view => view.layout = d.layout
  | _ => True

/-- What is published. -/
def detections : Course F → List Detection
  | published _ _ view => view.detections d.thresholds d.tieBreak
  | _ => []

/-- The calls for one detection. -/
def announcement (x : Detection) : List (DeviceCall F) :=
  [.rectangle x.corners, .notify (.rounded (d.label x.best.index) x.best.score x.corners)]

/-- All calls of a cycle. -/
def calls : Course F → List (DeviceCall F)
  | lost => [.acquire none]
  | notPrepared frame reason =>
    [.acquire (some frame), .preprocess frame (.error reason), .release frame, .flush]
  | notInferred frame reason =>
    [.acquire (some frame), .preprocess frame (.ok ()), .infer frame (.error reason),
      .release frame, .flush]
  | noOutput frame spent reason =>
    [.acquire (some frame), .preprocess frame (.ok ()), .infer frame (.ok ()), .adaptRate spent,
      .output 0 (.error reason), .release frame, .flush]
  | malformed frame spent bytes =>
    [.acquire (some frame), .preprocess frame (.ok ()), .infer frame (.ok ()), .adaptRate spent,
      .output 0 (.ok bytes), .release frame]
  | published frame spent view =>
    [.acquire (some frame), .preprocess frame (.ok ()), .infer frame (.ok ()), .adaptRate spent,
      .output 0 (.ok view.bytes), .clear] ++
    (view.detections d.thresholds d.tieBreak).flatMap (announcement d) ++
    [.commit, .release frame]

/-- How the cycle ends. -/
def result : Course F → Except Fault Outcome
  | lost => .ok .sourceLost
  | notPrepared _ reason => .ok (.skipped .preprocessing reason)
  | notInferred _ reason => .ok (.skipped .inferring reason)
  | noOutput _ _ reason => .ok (.skipped .inferring reason)
  | malformed _ _ bytes => .error (.malformedTensor ⟨d.layout.tensorSize, bytes.size⟩)
  | published _ _ view => .ok (.published (view.detections d.thresholds d.tieBreak))

variable {d}

/-- The calls of a cycle tell its course. -/
theorem eq_of_calls {course course' : Course F} (h : course.Fits d) (h' : course'.Fits d)
    (heq : course.calls d = course'.calls d) : course = course' := by
  cases course <;> cases course' <;> simp [calls] at heq
  case lost.lost => rfl
  case notPrepared.notPrepared => simp [heq]
  case notInferred.notInferred => simp [heq]
  case noOutput.noOutput => simp [heq]
  case malformed.malformed => simp [heq]
  case published.published frame spent view frame' spent' view' =>
    have hview : view = view' := View.eq_of_bytes (h.trans h'.symm) heq.2.2.1
    rw [heq.1, heq.2.1, hview]

end Course

variable {σ F : Type} {w : Surroundings σ F} {d : Detector}

/-- The calls of a cycle after the frame is released. -/
def closing : Except Fault Outcome → List (DeviceCall F)
  | .ok (.skipped _ _) => [.flush]
  | _ => []

/-- The events are declared once, whether that fails or not. -/
theorem emits_declare :
    Emits (Recorded.devices w).declare fun made _ => made = [DeviceCall.declare] := by
  unfold Devices.declare
  dsimp only [Recorded.devices]
  refine (emits_call _ _).bind ?_
  rintro _ declared rfl
  refine (emits_report _ declared).mono ?_
  rintro _ _ rfl
  rfl

/-- The calls for one detection. -/
theorem emits_publishOne (d : Detector) (x : Detection) :
    Emits (publishOne (Recorded.devices w) d x) fun made _ => made = Course.announcement d x := by
  dsimp only [publishOne, Recorded.devices]
  refine (emits_log _ _).bind ?_
  rintro _ _ rfl
  refine (emits_call _ _).bind ?_
  rintro _ drawn rfl
  refine (emits_report _ drawn).bind ?_
  rintro _ _ rfl
  refine (emits_call _ _).bind ?_
  rintro _ sent rfl
  refine (emits_report _ sent).mono ?_
  rintro _ _ rfl
  rfl

/-- The calls for all detections, whether the sinks fail or not. -/
theorem emits_publish (d : Detector) (detections : List Detection) :
    Emits (publish (Recorded.devices w) d detections) fun made _ =>
      made = .clear :: detections.flatMap (Course.announcement d) ++ [.commit] := by
  unfold publish
  dsimp only [Recorded.devices]
  refine (emits_call _ _).bind ?_
  rintro _ cleared rfl
  refine (emits_report _ cleared).bind ?_
  rintro _ _ rfl
  refine (emits_forM (emits_publishOne d) detections).bind ?_
  rintro _ _ rfl
  refine (emits_call _ _).bind ?_
  rintro _ committed rfl
  refine (emits_report _ committed).mono ?_
  rintro _ _ rfl
  rfl

theorem emits_process (h : d.Fitted) (frame : F) :
    Emits (process (Recorded.devices w) d frame) fun made r =>
      ∃ course : Course F, course.Fits d ∧ r.1 = course.result d ∧
        course.calls d = .acquire (some frame) :: made ++ .release frame :: closing r.1 ∧
        d.Continues r.2 := by
  unfold process
  refine (emits_timed _ _).bind ?_
  rintro _ ⟨prepared, preparing⟩ rfl
  cases prepared with
  | error reason =>
    exact emits_pure ⟨.notPrepared frame reason, trivial, rfl, rfl, h.continues⟩
  | ok =>
    refine (emits_timed _ _).bind ?_
    rintro _ ⟨inferred, inferring⟩ rfl
    cases inferred with
    | error reason =>
      exact emits_pure ⟨.notInferred frame reason, trivial, rfl, rfl, h.continues⟩
    | ok =>
      dsimp only [Recorded.devices]
      refine (emits_call _ _).bind ?_
      rintro _ _ rfl
      refine (emits_call _ _).bind ?_
      rintro _ output rfl
      cases output with
      | error reason =>
        exact emits_pure ⟨.noOutput frame _ reason, trivial, rfl, rfl, h.continues⟩
      | ok bytes =>
        dsimp only
        rcases Nat.lt_or_ge bytes.size d.layout.tensorSize with short | enough
        · rw [Detector.detect_short short]
          exact emits_pure ⟨.malformed frame _ bytes, short, rfl, rfl, h.continues⟩
        · obtain ⟨d', hdetect, hcontinues⟩ :=
            Detector.detect_view h (v := ⟨d.layout, bytes, enough⟩) rfl
          rw [hdetect]
          dsimp only
          refine (emits_publish d' _).bind ?_
          rintro _ _ rfl
          have hcalls : Course.announcement (F := F) d' = Course.announcement d := by
            funext x
            rw [Course.announcement, Detector.label, hcontinues.labels]
            rfl
          refine emits_pure ⟨.published frame (preparing + inferring) ⟨d.layout, bytes, enough⟩, rfl,
            rfl, ?_, hcontinues⟩
          rw [hcalls]
          simp [Course.calls, closing]

/-- A cycle takes one of the courses. -/
theorem emits_run (h : d.Fitted) :
    Emits (run (Recorded.devices w) d) fun made r =>
      ∃ course : Course F, course.Fits d ∧ made = course.calls d ∧ r.1 = course.result d ∧
        d.Continues r.2 := by
  unfold run
  refine (emits_call _ _).bind ?_
  rintro _ acquired rfl
  cases acquired with
  | none =>
    refine (emits_log _ _).bind ?_
    rintro _ _ rfl
    exact emits_pure ⟨.lost, trivial, rfl, rfl, h.continues⟩
  | some frame =>
    refine (emits_process h frame).bind ?_
    rintro processed ⟨result, d'⟩ ⟨course, hfits, hresult, hcalls, hcontinues⟩
    dsimp only [Recorded.devices] at hcalls ⊢
    refine (emits_call _ _).bind ?_
    rintro _ _ rfl
    -- What is left to do after the release is settled by the result.
    rcases result with fault | (detections | ⟨stage, reason⟩ | _)
    · refine (emits_log _ _).bind ?_
      rintro _ _ rfl
      exact emits_pure ⟨course, hfits, by simp [hcalls, closing], hresult, hcontinues⟩
    · exact emits_pure ⟨course, hfits, by simp [hcalls, closing], hresult, hcontinues⟩
    · refine (emits_log _ _).bind ?_
      rintro _ _ rfl
      refine (emits_call _ _).bind ?_
      rintro _ _ rfl
      exact emits_pure ⟨course, hfits, by simp [hcalls, closing], hresult, hcontinues⟩
    · exact emits_pure ⟨course, hfits, by simp [hcalls, closing], hresult, hcontinues⟩

/-- New thresholds change the detector and no device. -/
theorem emits_setThresholds (d : Detector) (thresholds : Settings.Thresholds) :
    Emits (setThresholds d thresholds : Recorded w Detector) fun made d' =>
      made = [] ∧ d' = { d with thresholds } := by
  refine (emits_log _ _).bind ?_
  rintro _ _ rfl
  exact emits_pure ⟨rfl, rfl⟩

end FrameDetect.Cycle
