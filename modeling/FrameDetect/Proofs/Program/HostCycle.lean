import FrameDetect.Proofs.Cycle.Reachable
import FrameDetect.Proofs.Program.Sinks

/-!
# Cycles of a host

As long as there are frames, each cycle of a host takes one, makes one run and gives the frame back.  It
is skipped when the run fails at its turn, and else publishes the detections of the tensor.
-/

namespace FrameDetect.Program

open FrameDetect.Cycle (Detector Devices Fault Outcome process publish)
open FrameDetect.Detect (Detection)
open FrameDetect.Inference (Replay)
open FrameDetect.Publish (Notifier Overlay)
open FrameDetect.Tensor (View)
open FrameDetect.Time (Duration)
open FrameDetect.Video (Frame Synthetic SyntheticSettings)

variable {τ : Type} [MonadLog (StateM τ)] {feed : Feed}

/-! ## What source and model come to -/

/-- To deliver a frame is to acquire it, apart from the log. -/
theorem fst_deliver (source : Synthetic) (memory : τ) :
    ((source.deliver : StateM τ _) memory).1 =
      source.acquire.map fun answer => (answer.map Prod.fst, (answer.map Prod.snd).getD source) := by
  unfold Synthetic.deliver
  obtain _ | _ | _ := source.acquire <;> rfl

/-- The source gives its next frame, if it has one. -/
theorem yields_acquire {answer : Option (Frame × Synthetic)} (h : feed.source.acquire = .ok answer) :
    Yields (Host.sourceDevice (m := StateM τ)).acquire feed fun acquired feed' =>
      acquired = answer.map Prod.fst ∧ feed' = ⟨(answer.map Prod.snd).getD feed.source, feed.model⟩ := by
  refine yields_get.bind ?_
  rintro host _ ⟨rfl, rfl⟩
  have hdeliver : ∀ memory : τ, ((host.source.deliver : StateM τ _) memory).1 =
      .ok (answer.map Prod.fst, (answer.map Prod.snd).getD host.source) := by
    intro memory
    rw [fst_deliver, show host.source.acquire = .ok answer from h]
    rfl
  refine (yields_ofDevice hdeliver).bind ?_
  rintro _ _ ⟨rfl, rfl⟩
  refine (yields_set _).bind ?_
  rintro _ _ rfl
  exact yields_pure ⟨rfl, rfl⟩

theorem breaks_acquire {cause : Overflow} (h : feed.source.acquire = .error cause) :
    Breaks (Host.sourceDevice (m := StateM τ)).acquire feed cause := by
  refine yields_get.breaks ?_
  rintro host _ ⟨rfl, rfl⟩
  refine Breaks.bind (breaks_ofDevice fun memory => ?_) _
  rw [fst_deliver, show host.source.acquire = .error cause from h]
  rfl

/-- To run on a frame is to count a run, apart from the log. -/
theorem fst_run (model : Replay) (frame : Frame) (memory : τ) :
    ((model.run frame : StateM τ _) memory).1 = model.infer := by
  unfold Replay.run
  cases model.infer with
  | error => rfl
  | ok r =>
    obtain ⟨_ | _, _⟩ := r <;> rfl

/-- The model counts a run, and tells whether it failed. -/
theorem yields_infer (frame : Frame) {result : Except Inference.ReplayFault Unit} {model : Replay}
    (h : feed.model.infer = .ok (result, model)) :
    Yields ((Host.modelDevice (m := StateM τ)).infer frame) feed fun inferred feed' =>
      inferred.toBool = result.toBool ∧ feed' = ⟨feed.source, model⟩ := by
  refine yields_get.bind ?_
  rintro host _ ⟨rfl, rfl⟩
  refine (yields_ofDevice fun memory => (fst_run host.model frame memory).trans h).bind ?_
  rintro _ _ ⟨rfl, rfl⟩
  refine (yields_set _).bind ?_
  rintro _ _ rfl
  refine yields_pure ⟨?_, rfl⟩
  cases result <;> rfl

/-- A frame with data passes. -/
theorem yields_preprocess {frame : Frame} (h : frame.data.size ≠ 0) :
    Yields ((Host.modelDevice (m := StateM τ)).preprocess frame) feed fun prepared feed' =>
      prepared = .ok () ∧ feed' = feed := by
  refine yields_pure ⟨?_, rfl⟩
  rw [Replay.preprocess, if_neg h]
  rfl

theorem yields_release (frame : Frame) :
    Yields ((Host.sourceDevice (m := StateM τ)).release frame) feed fun _ feed' =>
      feed' = ⟨feed.source.release, feed.model⟩ :=
  yields_modify (Q := fun feed' => feed' = ⟨feed.source.release, feed.model⟩) fun _ hfeed => hfeed ▸ rfl

theorem yields_adaptRate (spent : Duration) :
    Yields ((Host.sourceDevice (m := StateM τ)).adaptRate spent) feed fun _ feed' =>
      feed' = ⟨feed.source.adaptRate spent, feed.model⟩ :=
  yields_modify (Q := fun feed' => feed' = ⟨feed.source.adaptRate spent, feed.model⟩)
    fun _ hfeed => hfeed ▸ rfl

/-- The first output is the tensor. -/
theorem yields_output :
    Yields ((Host.modelDevice (m := StateM τ)).output 0) feed fun output feed' =>
      output = .ok feed.model.tensor ∧ feed' = feed := by
  refine yields_get.bind ?_
  rintro host _ ⟨rfl, rfl⟩
  exact yields_pure ⟨rfl, rfl⟩

/-! ## Cycles -/

/-- Source and model of a host, with any sinks. -/
def Host.devicesWith (overlay : Overlay (HostT (StateM τ))) (notifier : Notifier (HostT (StateM τ))) :
    Devices (HostT (StateM τ)) Frame :=
  ⟨Host.sourceDevice, Host.modelDevice, overlay, notifier⟩

/-- How the cycle of a number ends. -/
inductive Turn (every : Option UInt64) (detections : List Detection) (n : Nat) : Outcome → Prop
  | fails (reason : String) : FailsAt every n → Turn every detections n (.skipped .inferring reason)
  | publishes : ¬FailsAt every n → Turn every detections n (.published detections)

variable {overlay : Overlay (HostT (StateM τ))} {notifier : Notifier (HostT (StateM τ))}

theorem spares_publish (hsinks : SparingSinks overlay notifier) (d : Detector)
    (detections : List Detection) :
    Spares (publish (Host.devicesWith overlay notifier) d detections) := by
  unfold publish Cycle.publishOne
  refine hsinks.clear.andThen fun cleared => (spares_report _ _).andThen fun _ => ?_
  refine (spares_forM (fun x => ?_) _).andThen fun _ => ?_
  · refine (spares_log _ _).andThen fun _ => ?_
    refine (hsinks.rectangle _).andThen fun drawn => (spares_report _ _).andThen fun _ => ?_
    exact (hsinks.notify _).andThen fun sent => spares_report _ _
  · exact hsinks.commit.andThen fun committed => spares_report _ _

variable [MonadClock (StateM τ)] {settings : SyntheticSettings} {limit : UInt64} {every : Option UInt64}
  {acquired runs held n : Nat} {d : Detector} {v : View}

/-- A frame with data is run on, and the run counted. -/
theorem yields_process (hsinks : SparingSinks overlay notifier) (hd : d.Fitted)
    (hv : v.layout = d.layout) (h : Feed.After settings limit v.bytes every acquired runs held feed)
    (hlt : runs < limit.toNat) {frame : Frame} (hframe : frame.data.size ≠ 0) :
    Yields (process (Host.devicesWith overlay notifier) d frame) feed fun r feed' =>
      Feed.After settings limit v.bytes every acquired (runs + 1) held feed' ∧ d.Continues r.2 ∧
        ∃ outcome, r.1 = .ok outcome ∧
          Turn every (v.detections d.thresholds d.tieBreak) (runs + 1) outcome := by
  unfold process
  refine (yields_preprocess hframe).timed.bind ?_
  rintro ⟨_, preparing⟩ _ ⟨rfl, rfl⟩
  obtain ⟨result, model, hinfer, hturn, hafter⟩ := h.infer hlt
  refine (yields_infer frame hinfer).timed.bind ?_
  rintro ⟨inferred, inferring⟩ _ ⟨hinferred, rfl⟩
  rw [← hinferred] at hturn
  cases inferred with
  | error reason =>
    have hfails : FailsAt every (runs + 1) := by simpa [Except.toBool] using hturn
    exact yields_pure ⟨hafter, hd.continues, _, rfl, .fails reason hfails⟩
  | ok =>
    have hpasses : ¬FailsAt every (runs + 1) := by simpa [Except.toBool] using hturn
    refine (yields_adaptRate _).bind ?_
    rintro _ _ rfl
    have hadapted := hafter.adaptRate (preparing + inferring)
    refine yields_output.bind ?_
    rintro _ _ ⟨rfl, rfl⟩
    obtain ⟨d', hdetect, hd'⟩ := Detector.detect_view hd hv
    rw [hadapted.tensor]
    dsimp only
    rw [hdetect]
    exact (spares_publish hsinks d' _).bind fun _ =>
      yields_pure ⟨hadapted, hd', _, rfl, .publishes hpasses⟩

/-- While there are frames, a cycle takes one, makes a run and gives the frame back. -/
theorem yields_run_of_lt (hsinks : SparingSinks overlay notifier) (hd : d.Fitted)
    (hv : v.layout = d.layout) (h : Feed.After settings limit v.bytes every n n 0 feed)
    (hframes : Delivers settings limit) (hblock : frameBytes settings ≤ greatestBlock) (hlt : n < limit.toNat) :
    Yields (Cycle.run (Host.devicesWith overlay notifier) d) feed fun r feed' =>
      Feed.After settings limit v.bytes every (n + 1) (n + 1) 0 feed' ∧ d.Continues r.2 ∧
        ∃ outcome, r.1 = .ok outcome ∧
          Turn every (v.detections d.thresholds d.tieBreak) (n + 1) outcome := by
  unfold Cycle.run
  obtain ⟨frame, source, hacquire, hframe, htaken⟩ := h.acquire_of_lt hframes hblock hlt (Nat.zero_le n)
  refine (yields_acquire hacquire).bind ?_
  rintro _ _ ⟨rfl, rfl⟩
  refine (yields_process hsinks hd hv htaken hlt hframe).bind ?_
  rintro ⟨_, d'⟩ feed' ⟨hprocessed, hd', outcome, rfl, hturn⟩
  refine (yields_release frame).bind ?_
  rintro _ _ rfl
  have hreleased := hprocessed.release
  cases hturn with
  | fails reason hfails =>
    refine (spares_log _ _).bind fun _ => ?_
    exact (spares_pure _).bind fun _ => yields_pure ⟨hreleased, hd', _, rfl, .fails reason hfails⟩
  | publishes hpasses => exact yields_pure ⟨hreleased, hd', _, rfl, .publishes hpasses⟩

/-- While there are frames that no block of memory can hold, a cycle is broken off. -/
theorem breaks_run_of_large (d : Detector) (h : Feed.After settings limit v.bytes every n n 0 feed)
    (hframes : Delivers settings limit) (hlarge : greatestBlock < frameBytes settings) (hlt : n < limit.toNat) :
    Breaks (Cycle.run (Host.devicesWith overlay notifier) d) feed .capacity := by
  unfold Cycle.run
  exact (breaks_acquire (h.acquire_of_large hframes hlarge hlt (Nat.zero_le n))).bind _

/-- When all frames have been taken, a cycle finds the stream gone. -/
theorem yields_run_of_eq {tensor : ByteArray} (d : Detector)
    (h : Feed.After settings limit tensor every limit.toNat runs held feed) :
    Yields (Cycle.run (Host.devicesWith overlay notifier) d) feed fun r feed' =>
      r = (.ok .sourceLost, d) ∧ feed' = feed := by
  unfold Cycle.run
  refine (yields_acquire h.acquire_of_eq).bind ?_
  rintro _ _ ⟨rfl, rfl⟩
  exact (spares_log _ _).bind fun _ => yields_pure ⟨rfl, rfl⟩

end FrameDetect.Program
