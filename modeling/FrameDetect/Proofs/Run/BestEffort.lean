import FrameDetect.Proofs.Cycle.Overheard
import FrameDetect.Proofs.Cycle.Reachable
import FrameDetect.Run.OneShot
import FrameDetect.Run.Periodic

/-!
# Publishing is best effort

Runs keep step if their devices and their listeners do.  So two runs whose sinks fail in different calls
make the same calls of all devices, in the same order and with the same arguments, and come to the same
result; only warnings in the log may differ.
-/

namespace FrameDetect.Run

open FrameDetect.Cycle (Detector Devices InStep KeepStep Recorded Scene Surroundings inStep_perform
  inStep_pure)
open FrameDetect.Run.Periodic (Result State)
open FrameDetect.Tensor (oneRowView)

section
variable {σ σ' F : Type} {w : Surroundings σ F} {w' : Surroundings σ' F}
  {R : Scene σ F → Scene σ' F → Prop} {T : Except String Unit → Except String Unit → Prop}

/-- Listeners that keep step. -/
structure Listener.KeepStep (R : Scene σ F → Scene σ' F → Prop) (listener : Listener (Recorded w))
    (listener' : Listener (Recorded w')) : Prop where
  isTriggered : InStep R listener.isTriggered listener'.isTriggered Eq
  waitUntil : ∀ deadline, InStep R (listener.waitUntil deadline) (listener'.waitUntil deadline) Eq

variable {listener : Listener (Recorded w)} {listener' : Listener (Recorded w')}

/-- Cycles of one detector keep step. -/
theorem inStep_cycle (h : KeepStep R T w w') (d : Detector) :
    InStep R (Cycle.run (Recorded.devices w) d) (Cycle.run (Recorded.devices w') d) Eq :=
  (h.inStep_run Detector.matches_eq rfl).mono fun _ _ ⟨hresult, hdetector⟩ =>
    Prod.ext hresult hdetector

theorem inStep_oneShot (h : KeepStep R T w w') (d : Detector) :
    InStep R (OneShot.run (Recorded.devices w) d) (OneShot.run (Recorded.devices w') d) Eq := by
  unfold OneShot.run
  refine (h.log _ _).bind ?_
  rintro _ _ rfl
  refine h.inStep_declare.bind ?_
  rintro _ _ rfl
  refine (inStep_cycle h d).bind ?_
  rintro ⟨result, d'⟩ _ rfl
  refine h.undeclare.bind ?_
  rintro _ _ rfl
  exact inStep_pure rfl

variable {p : Periodic}

theorem inStep_start (h : KeepStep R T w w') (d : Detector) :
    InStep R (p.start (Recorded.devices w) d) (p.start (Recorded.devices w') d) Eq := by
  unfold Periodic.start
  refine (h.log _ _).bind ?_
  rintro _ _ rfl
  refine h.inStep_declare.bind ?_
  rintro _ _ rfl
  refine h.elapsed.bind ?_
  rintro now _ rfl
  exact inStep_pure rfl

/-- A step of a run from one state. -/
theorem inStep_step (h : KeepStep R T w w') (hl : listener.KeepStep R listener') (st : State) :
    InStep R (p.step (Recorded.devices w) listener st) (p.step (Recorded.devices w') listener' st)
      Eq := by
  unfold Periodic.step
  refine hl.isTriggered.bind ?_
  rintro triggered _ rfl
  cases triggered with
  | true =>
    refine (h.log _ _).bind ?_
    rintro _ _ rfl
    exact inStep_pure rfl
  | false =>
    simp only [Bool.false_eq_true, if_false]
    cases p.turn st.summary with
    | error cause => exact inStep_pure rfl
    | ok turn =>
      cases turn with
      | complete cycles =>
        refine (h.log _ _).bind ?_
        rintro _ _ rfl
        exact inStep_pure rfl
      | cycle number =>
        refine (h.log _ _).bind ?_
        rintro _ _ rfl
        refine (inStep_cycle h st.detector).bind ?_
        rintro ⟨result, d'⟩ _ rfl
        dsimp only
        cases st.summary.extend result with
        | error fault => exact inStep_pure rfl
        | ok summary =>
          dsimp only
          split
          · refine (h.log _ _).bind ?_
            rintro _ _ rfl
            exact inStep_pure rfl
          · refine h.elapsed.bind ?_
            rintro now _ rfl
            refine (hl.waitUntil _).bind ?_
            rintro waited _ rfl
            cases waited with
            | true =>
              refine (h.log _ _).bind ?_
              rintro _ _ rfl
              exact inStep_pure rfl
            | false => exact inStep_pure rfl

/-- Step by step, the whole loop. -/
theorem inStep_steps (h : KeepStep R T w w') (hl : listener.KeepStep R listener') (st : State)
    (n : Nat) :
    InStep R (p.steps (Recorded.devices w) listener st n)
      (p.steps (Recorded.devices w') listener' st n) Eq := by
  induction n generalizing st with
  | zero => exact inStep_pure rfl
  | succ n ih =>
    unfold Periodic.steps
    refine (inStep_step h hl st).bind ?_
    rintro next _ rfl
    cases next with
    | inl st' => exact ih st'
    | inr result => exact inStep_pure rfl

theorem inStep_finish (h : KeepStep R T w w') (result : Result) :
    InStep R (Periodic.finish (Recorded.devices w) result)
      (Periodic.finish (Recorded.devices w') result) Eq := by
  have hundeclare : InStep R
      (do (Recorded.devices w).notifier.undeclare; return result)
      (do (Recorded.devices w').notifier.undeclare; return result) Eq := by
    refine h.undeclare.bind ?_
    rintro _ _ rfl
    exact inStep_pure rfl
  obtain ⟨fault | summary, d'⟩ := result
  · cases fault with
    | overflow cause => exact inStep_pure rfl
    | _ => exact hundeclare
  · refine h.undeclare.bind ?_
    rintro _ _ rfl
    refine (h.log _ _).bind ?_
    rintro _ _ rfl
    exact inStep_pure rfl

theorem inStep_runFor (h : KeepStep R T w w') (hl : listener.KeepStep R listener') (n : Nat)
    (d : Detector) :
    InStep R (p.runFor n (Recorded.devices w) listener d)
      (p.runFor n (Recorded.devices w') listener' d) Eq := by
  unfold Periodic.runFor
  refine (inStep_start h d).bind ?_
  rintro st _ rfl
  refine (inStep_steps h hl st n).bind ?_
  rintro looped _ rfl
  cases looped with
  | none => exact inStep_pure rfl
  | some result =>
    refine (inStep_finish h result).bind ?_
    rintro ended _ rfl
    exact inStep_pure rfl

end

variable {σ F : Type} {clock : MonadClock (StateM σ)} {devices devices' : Devices (StateM σ) F}

/-- A listener among the devices keeps step, since no failure of a sink reaches the memory. -/
theorem Listener.keepStep_heed (listener : Listener (StateM σ)) :
    (Recorded.heed listener : Listener (Recorded (.overheard clock devices))).KeepStep Scene.Alike
      (Recorded.heed listener : Listener (Recorded (.overheard clock devices'))) where
  isTriggered := inStep_perform (fun _ => rfl) (fun _ => rfl) fun _ => rfl
  waitUntil _ := inStep_perform (fun _ => rfl) (fun _ => rfl) fun _ => rfl

/-- Devices that differ only in which calls of their sinks fail make a cycle come to the same outcome, and
a run to the same result, with the same calls of source, model, overlay and notifier.  Only warnings
tell the scenes apart that are left. -/
theorem publishing_is_best_effort (h : devices.DifferInFailures devices') (d : Detector) :
    InStep Scene.Alike (Cycle.run (Recorded.devices (.overheard clock devices)) d)
      (Cycle.run (Recorded.devices (.overheard clock devices')) d) Eq ∧
    InStep Scene.Alike (OneShot.run (Recorded.devices (.overheard clock devices)) d)
      (OneShot.run (Recorded.devices (.overheard clock devices')) d) Eq ∧
    ∀ (p : Periodic) (listener : Listener (StateM σ)) (n : Nat),
      InStep Scene.Alike
        (p.runFor n (Recorded.devices (.overheard clock devices)) (Recorded.heed listener) d)
        (p.runFor n (Recorded.devices (.overheard clock devices')) (Recorded.heed listener) d) Eq :=
  ⟨inStep_cycle h.keepStep d, inStep_oneShot h.keepStep d, fun _ listener n =>
    inStep_runFor h.keepStep listener.keepStep_heed n d⟩

/-- Sinks that always fail, where others never do. -/
theorem publishing_is_best_effort_spoiled :
    let devices := (Surroundings.steady oneRowView.bytes).devices
    let clock : MonadClock (StateM Nat) := ⟨pure ⟨0⟩, pure ⟨0⟩⟩
    devices.DifferInFailures devices.spoiled ∧
      ((Cycle.run (Recorded.devices (.overheard clock devices)) .oneRow).run (.opening (1, []))).1 =
        ((Cycle.run (Recorded.devices (.overheard clock devices.spoiled)) .oneRow).run
          (.opening (1, []))).1 ∧
      InStep Scene.Alike (OneShot.run (Recorded.devices (.overheard clock devices)) .oneRow)
        (OneShot.run (Recorded.devices (.overheard clock devices.spoiled)) .oneRow) Eq := by
  intro devices clock
  have h : devices.DifferInFailures devices.spoiled := Devices.differInFailures_spoiled devices
  obtain ⟨hcycle, honeShot, -⟩ := @publishing_is_best_effort _ _ clock _ _ h .oneRow
  exact ⟨h, (hcycle _ _ (.refl _)).2, honeShot⟩

end FrameDetect.Run
