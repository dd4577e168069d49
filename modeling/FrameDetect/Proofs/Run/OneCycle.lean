import FrameDetect.Proofs.Run.BestEffort
import FrameDetect.Proofs.Run.OneShot
import FrameDetect.Proofs.Run.Whole

/-!
# One cycle, alone or at intervals

A periodic run that ends after one cycle and a run of a single cycle are written apart from each other.
They make the same calls, as long as nobody asks the periodic run to shut down.  Until the cycle is over
they go through it in lockstep; then the periodic run may wait and look again, so that what devices
remember may differ, but neither of them has more to do than to undeclare the events.
-/

namespace FrameDetect.Run

open FrameDetect.Cycle (Course Detector DeviceCall Devices Emits Happening InStep KeepStep Line Outcome
  Recorded Scene Surroundings beside calls emits_aside emits_call emits_elapsed emits_log emits_pure
  inStep_pure)
open FrameDetect.Time (Duration)
open FrameDetect.Tensor (oneRowView)

variable {σ F α α' β β' : Type}

/-- Scenes with the same past whose devices remember the same.  The lines of the log may differ. -/
structure Abreast (s s' : Scene (σ × List Line) F) : Prop where
  memory : s.memory.1 = s'.memory.1
  past : s.past = s'.past

/-- A listener that learns of no request.  To ask it changes nothing, but a wait may. -/
structure Listener.Quiet (listener : Listener (StateM σ)) : Prop where
  isTriggered : ∀ memory, listener.isTriggered memory = (false, memory)
  waitUntil : ∀ deadline memory, (listener.waitUntil deadline memory).1 = false

variable {clock : MonadClock (StateM σ)} {devices : Devices (StateM σ) F}

/-! ## In lockstep -/

theorem inStep_abreast (act : StateM σ α) (entry : α → List (Happening F)) :
    InStep Abreast (Recorded.perform (beside act) entry : Recorded (.overheard clock devices) α)
      (Recorded.perform (beside act) entry : Recorded (.overheard clock devices) α) Eq := by
  rintro ⟨⟨memory, lines⟩, past, shutdown⟩ ⟨⟨memory', lines'⟩, past', shutdown'⟩ ⟨hmemory, hpast⟩
  obtain rfl : memory = memory' := hmemory
  obtain rfl : past = past' := hpast
  exact ⟨⟨rfl, rfl⟩, rfl⟩

/-- An action with a result as `P` says that leaves the memory of the devices and the past as they are. -/
def Unnoticed (x : Recorded (.overheard clock devices) α) (P : α → Prop) : Prop :=
  InStep Abreast (pure () : Recorded (.overheard clock devices) Unit) x fun _ => P

theorem unnoticed_aside {act : StateM (σ × List Line) α} {P : α → Prop}
    (h : ∀ memory, (act memory).2.1 = memory.1) (hP : ∀ memory, P (act memory).1) :
    Unnoticed (Recorded.aside act : Recorded (.overheard clock devices) α) P := by
  rintro s s' ⟨hmemory, hpast⟩
  refine ⟨⟨hmemory.trans (h s'.memory).symm, ?_⟩, hP s'.memory⟩
  change s.past = s'.past ++ [] ++ []
  rw [hpast, List.append_nil, List.append_nil]

theorem unnoticed_log (level : Level) (text : String) :
    Unnoticed (log level text : Recorded (.overheard clock devices) Unit) fun _ => True :=
  unnoticed_aside (fun _ => rfl) fun _ => trivial

theorem unnoticed_elapsed (reads : ∀ memory, (clock.elapsed memory).2 = memory) :
    Unnoticed (elapsed : Recorded (.overheard clock devices) Duration) fun _ => True :=
  unnoticed_aside (fun memory => reads memory.1) fun _ => trivial

theorem Listener.Quiet.unnoticed_isTriggered {listener : Listener (StateM σ)} (quiet : listener.Quiet) :
    Unnoticed (Recorded.heed listener : Listener (Recorded (.overheard clock devices))).isTriggered
      fun triggered => triggered = false := by
  show Unnoticed (Recorded.aside (beside listener.isTriggered)) _
  apply unnoticed_aside
  · intro memory
    exact congrArg Prod.snd (quiet.isTriggered memory.1)
  · intro memory
    exact congrArg Prod.fst (quiet.isTriggered memory.1)

theorem inStep_line (level level' : Level) (text text' : String) :
    InStep Abreast (log level text : Recorded (.overheard clock devices) Unit)
      (log level' text' : Recorded (.overheard clock devices) Unit) Eq := by
  rintro ⟨⟨memory, lines⟩, past, shutdown⟩ ⟨⟨memory', lines'⟩, past', shutdown'⟩ ⟨hmemory, hpast⟩
  exact ⟨⟨hmemory, congrArg (· ++ [] ++ []) hpast⟩, rfl⟩

theorem keepStep_abreast (clock : MonadClock (StateM σ)) (devices : Devices (StateM σ) F) :
    KeepStep Abreast Eq (.overheard clock devices) (.overheard clock devices) where
  acquire := inStep_abreast _ _
  release _ := inStep_abreast _ _
  adaptRate _ := inStep_abreast _ _
  flush := inStep_abreast _ _
  preprocess _ := inStep_abreast _ _
  infer _ := inStep_abreast _ _
  output _ := inStep_abreast _ _
  clear := inStep_abreast _ _
  rectangle _ := inStep_abreast _ _
  commit := inStep_abreast _ _
  declare := inStep_abreast _ _
  notify _ := inStep_abreast _ _
  undeclare := inStep_abreast _ _
  log level text := inStep_line level level text text
  elapsed := inStep_abreast _ _
  report := by
    rintro title result _ rfl
    cases result with
    | ok => exact inStep_pure rfl
    | error reason => exact inStep_line _ _ _ _

/-! ## To the end -/

/-- From scenes that are abreast, two actions end with the same calls, with results as `Q` says. -/
def EndAlike (x : Recorded (.overheard clock devices) α) (x' : Recorded (.overheard clock devices) α')
    (Q : α → α' → Prop) : Prop :=
  ∀ s s', Abreast s s' →
    calls (x.run s).2.past = calls (x'.run s').2.past ∧ Q (x.run s).1 (x'.run s').1

section
variable {P : α → α' → Prop} {Q : β → β' → Prop} {x : Recorded (.overheard clock devices) α}
  {x' : Recorded (.overheard clock devices) α'} {y : Recorded (.overheard clock devices) β}
  {f : α → Recorded (.overheard clock devices) β} {f' : α' → Recorded (.overheard clock devices) β'}

theorem endAlike_bind (hx : InStep Abreast x x' P) (hf : ∀ a a', P a a' → EndAlike (f a) (f' a') Q) :
    EndAlike (x >>= f) (x' >>= f') Q := by
  intro s s' hs
  obtain ⟨hleft, hP⟩ := hx s s' hs
  exact hf _ _ hP _ _ hleft

/-- One side goes ahead where the devices do not notice. -/
theorem Unnoticed.endAlike {P : α' → Prop} (hx : Unnoticed x' P)
    (hf : ∀ a', P a' → EndAlike y (f' a') Q) : EndAlike y (x' >>= f') Q := by
  have h : EndAlike (pure () >>= fun _ => y) (x' >>= f') Q := endAlike_bind hx fun _ => hf
  rwa [pure_bind] at h

/-- Actions that add the same calls wherever they start need not keep step. -/
theorem endAlike_of_emits {made : List (DeviceCall F)} {a : α} {a' : α'}
    (hx : Emits x fun m r => m = made ∧ r = a) (hx' : Emits x' fun m r => m = made ∧ r = a')
    (h : P a a') : EndAlike x x' P := by
  intro s s' hs
  obtain ⟨new, hext, -, hnew, ha⟩ := hx s
  obtain ⟨new', hext', -, hnew', ha'⟩ := hx' s'
  rw [hext.past, hext'.past, Cycle.calls_append, Cycle.calls_append, hnew, hnew', hs.past, ha, ha']
  exact ⟨rfl, h⟩

end

/-! ## After the cycle -/

variable {listener : Listener (StateM σ)} {d : Detector}

theorem Listener.Quiet.emits_isTriggered (quiet : listener.Quiet) :
    Emits (Recorded.heed listener : Listener (Recorded (.overheard clock devices))).isTriggered
      fun made triggered => made = [] ∧ triggered = false := by
  intro s
  obtain ⟨new, hext, hlook, hmade⟩ := emits_aside (beside listener.isTriggered) s
  exact ⟨new, hext, hlook, hmade, congrArg Prod.fst (quiet.isTriggered s.memory.1)⟩

theorem Listener.Quiet.emits_waitUntil (quiet : listener.Quiet) (deadline : Duration) :
    Emits ((Recorded.heed listener : Listener (Recorded (.overheard clock devices))).waitUntil deadline)
      fun made triggered => made = [] ∧ triggered = false := by
  intro s
  obtain ⟨new, hext, hlook, hmade⟩ := emits_aside (beside (listener.waitUntil deadline)) s
  exact ⟨new, hext, hlook, hmade, quiet.waitUntil deadline s.memory.1⟩

/-- A run whose cycles are done finds this out in its next step. -/
theorem emits_steps_of_complete (quiet : listener.Quiet) {p : Periodic} {st : Periodic.State} {cycles : UInt64}
    (complete : p.turn st.summary = .ok (.complete cycles)) (n : Nat) :
    Emits (p.steps (Recorded.devices (.overheard clock devices)) (Recorded.heed listener) st (n + 1))
      fun made r => made = [] ∧ r = some (.ok st.summary, st.detector) := by
  unfold Periodic.steps Periodic.step
  simp only [bind_assoc]
  refine quiet.emits_isTriggered.bind ?_
  rintro _ _ ⟨rfl, rfl⟩
  simp only [Bool.false_eq_true, if_false, complete, bind_assoc, pure_bind]
  refine (emits_log _ _).bind ?_
  rintro _ _ rfl
  exact emits_pure ⟨rfl, rfl⟩

/-- What is left to do when the loop of a run has ended and no count has broken it off. -/
theorem emits_some_finish {result : Except Fault Summary} (d : Detector)
    (h : ∀ cause, result ≠ .error (.overflow cause)) :
    Emits (do
      let r ← Periodic.finish (Recorded.devices (.overheard clock devices)) (result, d)
      return some r) fun made r => made = [.undeclare] ∧ r = some (result, d) := by
  refine (emits_finish d h).bind ?_
  rintro _ r ⟨rfl, rfl⟩
  exact emits_pure ⟨rfl, rfl⟩

/-- How the two runs end, by the result of the cycle. -/
def Settled (r : Except Fault Summary × Detector) (r' : Option (Except Fault Summary × Detector)) :
    Prop :=
  ∃ result, r.1 = OneShot.verdict result ∧ r' = some (Summary.empty.extend result, r.2)

/-- What is left to do in a run of a single cycle. -/
theorem endAlike_undeclare {result : Except Cycle.Fault Outcome}
    {rest : Recorded (.overheard clock devices) (Option (Except Fault Summary × Detector))}
    (hrest : Emits rest fun made r =>
      made = [.undeclare] ∧ r = some (Summary.empty.extend result, d)) :
    EndAlike (do
      (Recorded.devices (.overheard clock devices)).notifier.undeclare
      return (OneShot.verdict result, d)) rest Settled := by
  refine endAlike_of_emits (a := (OneShot.verdict result, d)) ?_ hrest ⟨result, rfl, rfl⟩
  dsimp only [Recorded.devices]
  refine (emits_call _ _).bind ?_
  rintro _ _ rfl
  exact emits_pure ⟨rfl, rfl⟩

/-- The first outcome is enough for a run of one cycle. -/
theorem turn_one {summary : Summary} {outcome : Outcome} (h : Summary.empty.record outcome = .ok summary)
    (hout : outcome ≠ .sourceLost) (period : Duration) :
    Periodic.turn ⟨period, some 1⟩ summary = .ok (.complete 1) := by
  have hone : summary.published.toNat + summary.skipped.toNat = 1 := by
    cases outcome with
    | published found =>
      obtain ⟨hpublished, -, hrest⟩ := Summary.record_published h
      rw [hpublished, hrest]
      rfl
    | skipped stage reason =>
      obtain ⟨hskipped, hrest⟩ := Summary.record_skipped h
      rw [hskipped, hrest]
      rfl
    | sourceLost => exact absurd rfl hout
  have hcycles : summary.cycles = .ok 1 := Summary.cycles_eq_ok_iff.2 hone.symm
  rw [Periodic.turn_of_cycles hcycles]
  rfl

theorem oneShot_eq (d : Detector) :
    OneShot.run (Recorded.devices (.overheard clock devices)) d = (do
      logInfo "开始任务..."
      (Recorded.devices (.overheard clock devices)).declare
      let r ← Cycle.run (Recorded.devices (.overheard clock devices)) d
      (Recorded.devices (.overheard clock devices)).notifier.undeclare
      return (OneShot.verdict r.1, r.2)) := rfl

theorem endAlike_oneCycle (devices : Devices (StateM σ) F) (quiet : listener.Quiet)
    (reads : ∀ memory, (clock.elapsed memory).2 = memory) (d : Detector) (period : Duration) (n : Nat) :
    EndAlike (OneShot.run (Recorded.devices (.overheard clock devices)) d)
      (Periodic.runFor (n + 2) ⟨period, some 1⟩ (Recorded.devices (.overheard clock devices))
        (Recorded.heed listener) d) Settled := by
  rw [oneShot_eq]
  unfold Periodic.runFor Periodic.start
  simp only [bind_assoc, pure_bind]
  refine endAlike_bind (inStep_line _ _ _ _) ?_
  rintro _ _ rfl
  refine endAlike_bind (keepStep_abreast _ _).inStep_declare ?_
  rintro _ _ rfl
  refine (unnoticed_elapsed reads).endAlike ?_
  intro start _
  rw [Periodic.steps, Periodic.step]
  simp only [bind_assoc]
  refine quiet.unnoticed_isTriggered.endAlike ?_
  rintro _ rfl
  have begins : Periodic.turn ⟨period, some 1⟩ .empty = .ok (.cycle 1) := rfl
  simp only [Bool.false_eq_true, if_false, begins, bind_assoc]
  refine (unnoticed_log _ _).endAlike ?_
  rintro _ _
  refine endAlike_bind (inStep_cycle (keepStep_abreast _ _) d) ?_
  rintro ⟨result, d'⟩ _ rfl
  -- From here on each run has only to undeclare the events, whatever the wait does to the devices.
  apply endAlike_undeclare
  cases result with
  | error fault =>
    simp only [Summary.extend_error, pure_bind]
    exact emits_some_finish d' (by simp)
  | ok outcome =>
    obtain ⟨summary, hrecord⟩ := Summary.exists_record_empty outcome
    obtain ⟨-, hlost⟩ := Summary.reasons_of_record hrecord
    simp only [Summary.extend_eq_ok_iff.2 ⟨outcome, rfl, hrecord⟩]
    by_cases hout : outcome = .sourceLost
    · rw [if_pos (hlost.2 (.inr hout))]
      simp only [bind_assoc, pure_bind]
      refine (emits_log _ _).bind ?_
      rintro _ _ rfl
      exact emits_some_finish d' (by simp)
    · have goes : ¬summary.sourceLost = true := fun heq => (hlost.1 heq).elim Bool.false_ne_true hout
      rw [if_neg goes]
      simp only [bind_assoc]
      refine emits_elapsed.bind ?_
      rintro _ now rfl
      refine (quiet.emits_waitUntil _).bind ?_
      rintro _ _ ⟨rfl, rfl⟩
      simp only [Bool.false_eq_true, if_false, pure_bind]
      refine (emits_steps_of_complete quiet (turn_one hrecord hout period) n).bind ?_
      rintro _ _ ⟨rfl, rfl⟩
      exact emits_some_finish d' (by simp)

/-! ## Agreement -/

theorem OneShot.verdict_injective {result result' : Except Cycle.Fault Outcome}
    (h : verdict result = verdict result') : result = result' := by
  rcases result with fault | (detections | ⟨stage, reason⟩ | _)
  case ok.published =>
    obtain ⟨summary, -, hverdict, rfl⟩ := verdict_published detections
    exact (published_of_verdict (h.symm.trans hverdict)).symm
  all_goals rcases result' with fault' | (detections' | ⟨stage', reason'⟩ | _)
  case error.ok.published | ok.skipped.ok.published | ok.sourceLost.ok.published =>
    obtain ⟨summary, -, hverdict, -⟩ := verdict_published detections'
    cases h.trans hverdict
  all_goals simp [verdict] at h ⊢
  all_goals simp [h]

/-- No cycle declares the events or undeclares them. -/
theorem events_not_mem_calls (course : Course F) (d : Detector) :
    .declare ∉ course.calls d ∧ .undeclare ∉ course.calls d := by
  cases course <;> simp [Course.calls, Course.announcement]

/-- What a run of a single cycle and a periodic run come to, by the result of the cycle. -/
structure Agree (result : Except Cycle.Fault Outcome) (single spaced : Except Fault Summary) : Prop where
  published : ∀ detections, result = .ok (.published detections) →
    ∃ summary, Summary.empty.record (.published detections) = .ok summary ∧ single = .ok summary ∧ spaced = single
  failed : ∀ fault, result = .error fault → single = .error (.cycle fault) ∧ spaced = single
  error_iff : (∃ fault, single = .error fault) ↔
    (∃ fault, spaced = .error fault) ∨
      ∃ summary, spaced = .ok summary ∧ (summary.skipped = 1 ∨ summary.sourceLost = true)

theorem agree_verdict (result : Except Cycle.Fault Outcome) :
    Agree result (OneShot.verdict result) (Summary.empty.extend result) := by
  constructor
  case published =>
    rintro detections rfl
    obtain ⟨summary, hrecord, hverdict, -⟩ := OneShot.verdict_published detections
    refine ⟨summary, hrecord, hverdict, ?_⟩
    rw [hverdict]
    exact Summary.extend_eq_ok_iff.2 ⟨_, rfl, hrecord⟩
  case failed =>
    rintro fault rfl
    exact ⟨rfl, rfl⟩
  case error_iff =>
    rcases result with fault | (detections | ⟨stage, reason⟩ | _)
    · exact iff_of_true ⟨_, rfl⟩ (.inl ⟨_, rfl⟩)
    · obtain ⟨summary, hrecord, hverdict, -⟩ := OneShot.verdict_published detections
      obtain ⟨-, -, hrest⟩ := Summary.record_published hrecord
      have hextend : Summary.empty.extend (.ok (.published detections)) = .ok summary :=
        Summary.extend_eq_ok_iff.2 ⟨_, rfl, hrecord⟩
      rw [hverdict, hextend, hrest]
      simp [Summary.empty]
    · exact iff_of_true ⟨_, rfl⟩ (.inr ⟨_, rfl, .inl rfl⟩)
    · exact iff_of_true ⟨_, rfl⟩ (.inr ⟨_, rfl, .inr rfl⟩)

/-- A run of a single cycle and a periodic run that ends after one cycle make the same calls, with the
declaration of the events first and its end last, and leave the same detector, if no request comes and
reading the clock changes nothing: the source is told how long the model took.  They come to the same
summary if the cycle publishes and to the same fault if it fails; the single cycle comes to a fault just
if the periodic run does, or has skipped its cycle, or has lost its source. -/
theorem oneShot_agrees_with_one_cycle (devices : Devices (StateM σ) F) {d : Detector} (h : d.Reachable)
    {listener : Listener (StateM σ)} (quiet : listener.Quiet)
    (reads : ∀ memory, (clock.elapsed memory).2 = memory) (period : Duration) {n : Nat} (hn : 2 ≤ n)
    (memory : σ) :
    let single := (OneShot.run (Recorded.devices (.overheard clock devices)) d).run
      (.opening (memory, []))
    let spaced := (Periodic.runFor n ⟨period, some 1⟩ (Recorded.devices (.overheard clock devices))
      (Recorded.heed listener) d).run (.opening (memory, []))
    ∃ (course : Course F) (result : Except Fault Summary), course.Fits d ∧
      calls single.2.past = .declare :: course.calls d ++ [.undeclare] ∧
      calls spaced.2.past = .declare :: course.calls d ++ [.undeclare] ∧
      .declare ∉ course.calls d ∧ .undeclare ∉ course.calls d ∧
      spaced.1 = some (result, single.1.2) ∧ Agree (course.result d) single.1.1 result := by
  intro single spaced
  obtain ⟨m, rfl⟩ := Nat.exists_eq_add_of_le' hn
  have abreast : Abreast (.opening (memory, []) : Scene (σ × List Line) F) (.opening (memory, [])) :=
    ⟨rfl, rfl⟩
  obtain ⟨hcalls, result, hsingle, hspaced⟩ :=
    endAlike_oneCycle devices quiet reads d period m _ _ abreast
  obtain ⟨new, hext, -, course, hfits, hmade, hresult, -⟩ :=
    OneShot.emits_oneShot (w := .overheard clock devices) h.fitted (.opening (memory, []))
  obtain rfl : result = course.result d := OneShot.verdict_injective (hsingle.symm.trans hresult)
  have hpast : calls single.2.past = .declare :: course.calls d ++ [.undeclare] := by
    rw [← hmade]
    exact congrArg calls hext.past
  obtain ⟨hdeclare, hundeclare⟩ := events_not_mem_calls course d
  refine ⟨course, _, hfits, hpast, hcalls.symm.trans hpast, hdeclare, hundeclare, hspaced, ?_⟩
  have agree := agree_verdict (course.result d)
  rwa [← hresult] at agree

/-- A frame that is published. -/
theorem oneShot_agrees_with_one_cycle_steady :
    let clock : MonadClock (StateM Nat) := ⟨pure ⟨0⟩, pure ⟨0⟩⟩
    let devices := (Surroundings.steady oneRowView.bytes).devices
    let listener : Listener (StateM Nat) := ⟨pure false, fun _ => pure false⟩
    Detector.oneRow.Reachable ∧ listener.Quiet ∧ (∀ memory, (clock.elapsed memory).2 = memory) ∧
      2 ≤ 2 ∧ ∃ (course : Course Nat) (result : Except Fault Summary), course.Fits .oneRow ∧
        ((Periodic.runFor 2 ⟨defaultPeriod, some 1⟩ (Recorded.devices (.overheard clock devices))
            (Recorded.heed listener) .oneRow).run (.opening (1, []))).1.map Prod.fst = some result ∧
        Agree (course.result .oneRow)
          ((OneShot.run (Recorded.devices (.overheard clock devices)) .oneRow).run
            (.opening (1, []))).1.1 result := by
  intro clock devices listener
  have quiet : listener.Quiet := ⟨fun _ => rfl, fun _ _ => rfl⟩
  have reads : ∀ memory, (clock.elapsed memory).2 = memory := fun _ => rfl
  obtain ⟨course, result, hfits, -, -, -, -, hspaced, hagree⟩ :=
    oneShot_agrees_with_one_cycle devices Detector.reachable_oneRow quiet reads
      defaultPeriod (le_refl 2) 1
  exact ⟨Detector.reachable_oneRow, quiet, reads, le_refl 2, course, result, hfits,
    congrArg (Option.map Prod.fst) hspaced, hagree⟩

end FrameDetect.Run
