import FrameDetect.Proofs.Run.Step

/-!
# Whole runs

Between two steps of a run its chronicle, its tally and its limit are in order and nothing has ended it;
every step keeps this, or ends the run with a summary that closes the account, or breaks it off where a count
outgrows its word.  A run that ends is then framed by the declaration of the events and its end, whatever the
devices did and whenever requests came.
-/

namespace FrameDetect.Run

open FrameDetect.Cycle (Course Detector Emits Extends Happening Outcome Recorded Scene Surroundings
  acquired calls emits_call emits_declare emits_elapsed emits_log emits_pure released)
open FrameDetect.Run.Periodic (Result State)
open FrameDetect.Tensor (fourRowsView)

variable {σ F : Type} {d : Detector} {p : Periodic} {past new more : List (Happening F)}
  {courses : List (Course F)} {st : State}

/-- A run that has not ended, between two steps. -/
structure Going (p : Periodic) (d : Detector) (past new : List (Happening F))
    (courses : List (Course F)) (st : State) : Prop where
  chronicle : Chronicle d past new courses
  goesOn : ∀ call ∈ calls new, ¬Ends d call
  tally : Tally d courses st.summary
  detector : d.Continues st.detector
  notLost : st.summary.sourceLost = false
  notInterrupted : st.summary.interrupted = false
  within : p.Within st.summary

/-- The summary of a run that has ended. -/
structure Closed (p : Periodic) (d : Detector) (courses : List (Course F)) (summary : Summary) :
    Prop where
  tally : Tally d courses summary
  oneReason : ¬(summary.sourceLost = true ∧ summary.interrupted = true)
  /-- The cycles can be counted, and there are as many as the limit allows if nothing else has ended the run. -/
  cycles : ∃ cycles, summary.cycles = .ok cycles ∧
    (∀ most, p.maxCycles = some most → cycles ≤ most) ∧
    (summary.sourceLost = false → summary.interrupted = false → p.maxCycles = some cycles)

/-- What was counted when a run was broken off: all cycles that a word can number, where no limit has ended the run
before, or more detections than a word can tell. -/
def Outgrown (p : Periodic) (d : Detector) (courses : List (Course F)) : Prop :=
  (p.maxCycles = none ∧ (acquired (courses.flatMap (Course.calls d))).length + 1 = 2 ^ 64) ∨
    2 ^ 64 ≤ (publications d courses).flatten.length

/-- A run that has ended in its loop, or has been broken off. -/
structure Ended (p : Periodic) (d : Detector) (past new : List (Happening F))
    (courses : List (Course F)) (result : Except Fault Summary) : Prop where
  chronicle : Chronicle d past new courses
  closed : ∀ summary, result = .ok summary → Closed p d courses summary
  failed : ∀ fault, result = .error fault →
    (∃ course ∈ courses, ∃ cause, course.result d = .error cause ∧ fault = .cycle cause) ∨
      (fault = .overflow .sum ∧ Outgrown p d courses)

/-- A run that goes on after a step is in order again. -/
theorem Going.next {st' : State} (h : Going p d past new courses st)
    (hdoes : Does p d (past ++ new) st more (.inl st')) :
    ∃ course, Going p d past (new ++ more) (courses ++ [course]) st' := by
  obtain ⟨chronicle, goesOn, tally, detector, notLost, notInterrupted, within⟩ := h
  cases hdoes with
  | cycle number course hturn hguarded hfits hcalls hfollows =>
    cases hfollows with
    | next hextend hgoes hd =>
      obtain ⟨outcome, hresult, hrecord⟩ := Summary.extend_eq_ok_iff.1 hextend
      obtain ⟨hinterrupted, hlost⟩ := Summary.reasons_of_record hrecord
      have hout : outcome ≠ .sourceLost := fun heq => Bool.eq_false_iff.1 hgoes (hlost.2 (.inr heq))
      refine ⟨course, chronicle.append_cycle goesOn hfits hcalls hguarded, ?_, tally.record hresult hrecord, hd,
        hgoes, hinterrupted.trans notInterrupted, within.record hturn hrecord⟩
      rw [Cycle.calls_append, List.forall_mem_append, hcalls]
      exact ⟨goesOn, goesOn_calls hfits hresult hout⟩

/-- The result of a cycle that ends a run with a fault. -/
theorem Going.failed (h : Going p d past new courses st) {number : UInt64}
    (hturn : p.turn st.summary = .ok (.cycle number)) {course : Course F} {fault : Fault}
    (hextend : st.summary.extend (course.result d) = .error fault) :
    (∃ other ∈ courses ++ [course], ∃ cause, other.result d = .error cause ∧ fault = .cycle cause) ∨
      (fault = .overflow .sum ∧ Outgrown p d (courses ++ [course])) := by
  obtain ⟨cause, hresult, rfl⟩ | ⟨outcome, cause, hresult, hrecord, rfl⟩ := Summary.extend_eq_error_iff.1 hextend
  · exact .inl ⟨course, List.mem_append_right _ List.mem_cons_self, cause, hresult, rfl⟩
  · obtain ⟨rfl, found, rfl, hlarge⟩ := Periodic.record_error_of_turn h.within hturn hrecord
    refine .inr ⟨rfl, .inr ?_⟩
    rw [publications_concat hresult, List.flatten_append, List.flatten_singleton, List.length_append,
      ← h.tally.detections]
    exact hlarge

/-- A step that ends a run closes its account. -/
theorem Going.ended {result : Result} (h : Going p d past new courses st)
    (hdoes : Does p d (past ++ new) st more (.inr result)) :
    ∃ courses', Ended p d past (new ++ more) courses' result.1 := by
  cases hdoes with
  | interrupted hmore =>
    obtain ⟨cycles, hcycles, hmost⟩ := h.within
    refine ⟨courses, h.chronicle.append_of_no_calls hmore, ?_, nofun⟩
    rintro _ ⟨⟩
    exact ⟨h.tally.interrupted, by simp [h.notLost], cycles, hcycles, hmost, by simp⟩
  | overrun cause hmore hturn =>
    obtain ⟨rfl, hmax, hcount⟩ := Periodic.turn_error h.within hturn
    refine ⟨courses, h.chronicle.append_of_no_calls hmore, nofun, ?_⟩
    rintro _ ⟨⟩
    refine .inr ⟨rfl, .inl ⟨hmax, ?_⟩⟩
    rw [← h.tally.cycles, hcount]
  | complete cycles hmore hturn =>
    obtain ⟨hcycles, hmax⟩ := Periodic.turn_complete h.within hturn
    refine ⟨courses, h.chronicle.append_of_no_calls hmore, ?_, nofun⟩
    rintro _ ⟨⟩
    refine ⟨h.tally, by simp [h.notLost], cycles, hcycles, ?_, fun _ _ => hmax⟩
    rw [hmax]
    rintro _ ⟨⟩
    exact UInt64.le_refl _
  | cycle number course hturn hguarded hfits hcalls hfollows =>
    have hchronicle := h.chronicle.append_cycle h.goesOn hfits hcalls hguarded
    refine ⟨courses ++ [course], ?_⟩
    cases hfollows with
    | failed fault d' hextend =>
      refine ⟨hchronicle, nofun, ?_⟩
      rintro _ ⟨⟩
      exact h.failed hturn hextend
    | lost summary d' hextend hlost =>
      obtain ⟨outcome, hresult, hrecord⟩ := Summary.extend_eq_ok_iff.1 hextend
      obtain ⟨hinterrupted, -⟩ := Summary.reasons_of_record hrecord
      obtain ⟨cycles, hcycles, hmost⟩ := h.within.record hturn hrecord
      refine ⟨hchronicle, ?_, nofun⟩
      rintro _ ⟨⟩
      refine ⟨h.tally.record hresult hrecord, ?_, cycles, hcycles, hmost, by simp [hlost]⟩
      simp [hinterrupted, h.notInterrupted]
    | interrupted summary d' hextend hgoes =>
      obtain ⟨outcome, hresult, hrecord⟩ := Summary.extend_eq_ok_iff.1 hextend
      obtain ⟨cycles, hcycles, hmost⟩ := h.within.record hturn hrecord
      refine ⟨hchronicle, ?_, nofun⟩
      rintro _ ⟨⟩
      exact ⟨(h.tally.record hresult hrecord).interrupted, by simp [hgoes], cycles, hcycles, hmost, by simp⟩

variable {w : Surroundings σ F} {s : Scene σ F}

/-- Step by step, a run that ends closes its account. -/
theorem steps_ended (n : Nat) {result : Result} (h : Going p d past new courses st)
    (sound : s.Sound) (hpast : s.past = past ++ new)
    (ended : ((p.steps (Recorded.devices w) (Recorded.listener w) st n).run s).1 = some result) :
    ∃ more courses',
      Extends s ((p.steps (Recorded.devices w) (Recorded.listener w) st n).run s).2 more ∧
        Ended p d past (new ++ more) courses' result.1 := by
  -- The induction is on the steps that are left; what has happened grows with each of them.
  induction n generalizing s st new courses with
  | zero => cases ended
  | succ n ih =>
    obtain ⟨made, hext, hdoes⟩ := step_does (w := w) (p := p) sound h.detector
    rw [hpast] at hdoes
    rw [Periodic.steps, Recorded.run_bind] at ended ⊢
    generalize hstep : (p.step (Recorded.devices w) (Recorded.listener w) st).run s = r at *
    obtain ⟨next, s'⟩ := r
    cases next with
    | inr result' =>
      cases ended
      obtain ⟨courses', hended⟩ := h.ended hdoes
      exact ⟨made, courses', hext, hended⟩
    | inl st' =>
      obtain ⟨course, hgoing⟩ := h.next hdoes
      have hpast' : s'.past = past ++ (new ++ made) := by
        rw [hext.past, hpast, List.append_assoc]
      obtain ⟨more, courses', hext', hended⟩ := ih hgoing (hext.sound sound) hpast' ended
      refine ⟨made ++ more, courses', hext.trans hext', ?_⟩
      rw [← List.append_assoc]
      exact hended

/-! ## Beginning and end -/

theorem emits_start (p : Periodic) (d : Detector) :
    Emits (p.start (Recorded.devices w) d) fun made st =>
      made = [.declare] ∧ st.detector = d ∧ st.summary = .empty := by
  unfold Periodic.start
  refine (emits_log _ _).bind ?_
  rintro _ _ rfl
  refine emits_declare.bind ?_
  rintro _ _ rfl
  refine emits_elapsed.bind ?_
  rintro _ start rfl
  exact emits_pure ⟨rfl, rfl, rfl⟩

/-- A run whose events are declared is in order before its first step. -/
theorem going_start (h : d.Fitted) (hnew : calls new = [.declare]) (hd : st.detector = d)
    (hsummary : st.summary = .empty) : Going p d past new [] st := by
  have hchronicle : Chronicle d past new [] := by
    refine ⟨by simp, hnew, ?_, guarded_of_no_acquire _ fun frame => by simp [hnew]⟩
    rw [hnew]
    exact List.pairwise_singleton _ _
  refine ⟨hchronicle, ?_, ?_, ?_, ?_, ?_, ?_⟩
  · rw [hnew]
    intro call hmem
    rw [List.mem_singleton.1 hmem]
    exact id
  · rw [hsummary]
    exact tally_empty
  · rw [hd]
    exact h.continues
  · rw [hsummary]
    rfl
  · rw [hsummary]
    rfl
  · rw [hsummary]
    exact p.within_empty

/-- A run that has ended undeclares its events. -/
theorem emits_finish {result : Except Fault Summary} (d : Detector) (h : ∀ cause, result ≠ .error (.overflow cause)) :
    Emits (Periodic.finish (Recorded.devices w) (result, d)) fun made r =>
      made = [.undeclare] ∧ r = (result, d) := by
  have hundeclare : Emits (do
      (Recorded.devices w).notifier.undeclare
      return (result, d)) fun made r => made = [.undeclare] ∧ r = (result, d) := by
    dsimp only [Recorded.devices]
    refine (emits_call _ _).bind ?_
    rintro _ _ rfl
    exact emits_pure ⟨rfl, rfl⟩
  cases result with
  | error fault =>
    cases fault with
    | overflow cause => exact absurd rfl (h cause)
    | _ => exact hundeclare
  | ok summary =>
    dsimp only [Periodic.finish, Recorded.devices]
    refine (emits_call _ _).bind ?_
    rintro _ _ rfl
    refine (emits_log _ _).bind ?_
    rintro _ _ rfl
    exact emits_pure ⟨rfl, rfl⟩

/-- A run that is broken off does not. -/
theorem finish_overflow (cause : Overflow) (d : Detector) :
    Periodic.finish (Recorded.devices w) (.error (.overflow cause), d) = pure (.error (.overflow cause), d) := rfl

/-! ## The law of runs -/

/-- What holds of every run that ends: of the entries that it adds to those of `past`, of the courses of
its cycles, and of its result. -/
structure Law (p : Periodic) (d : Detector) (past new : List (Happening F))
    (courses : List (Course F)) (result : Except Fault Summary) : Prop where
  fits : ∀ course ∈ courses, course.Fits d
  /-- The events are declared first and undeclared last. -/
  calls : calls new = .declare :: courses.flatMap (Course.calls d) ++ [.undeclare]
  /-- In between they are neither declared nor undeclared. -/
  declaredOnce : .declare ∉ courses.flatMap (Course.calls d) ∧
    .undeclare ∉ courses.flatMap (Course.calls d)
  /-- The frames that are released are the frames that were acquired. -/
  released : released (Cycle.calls new) = acquired (Cycle.calls new)
  /-- No cycle follows the loss of the source or a malformed tensor. -/
  noneAfterEnd : NoneAfterEnd d (Cycle.calls new)
  /-- No cycle follows a request that was made before the look at its head. -/
  guarded : Guarded past new
  /-- Each cycle that had a frame is counted once. -/
  counted : ∀ summary, result = .ok summary →
    summary.published.toNat + summary.skipped.toNat = (acquired (Cycle.calls new)).length
  closed : ∀ summary, result = .ok summary → Closed p d courses summary
  failed : ∀ fault, result = .error fault →
    ∃ course ∈ courses, ∃ cause, course.result d = .error cause ∧ fault = .cycle cause

/-- What holds of a run that is broken off: it has kept the law up to its last course, and a count has outgrown its
word. -/
structure Overrun (p : Periodic) (d : Detector) (past new : List (Happening F))
    (courses : List (Course F)) (result : Except Fault Summary) : Prop where
  chronicle : Chronicle d past new courses
  released : Cycle.released (Cycle.calls new) = acquired (Cycle.calls new)
  result : result = .error (.overflow .sum)
  outgrown : Outgrown p d courses

theorem Ended.overrun {cause : Overflow} (h : Ended p d past new courses (.error (.overflow cause))) :
    Overrun p d past new courses (.error (.overflow cause)) := by
  obtain ⟨_, _, _, _, hfault⟩ | ⟨hfault, houtgrown⟩ := h.failed _ rfl
  · cases hfault
  · refine ⟨h.chronicle, ?_, congrArg Except.error hfault, houtgrown⟩
    rw [h.chronicle.calls]
    exact released_courses courses

/-- The end of the events completes a run that has ended in its loop. -/
theorem Ended.law {result : Except Fault Summary} (h : Ended p d past new courses result)
    (hresult : ∀ cause, result ≠ .error (.overflow cause)) (hmore : calls more = [.undeclare]) :
    Law p d past (new ++ more) courses result := by
  obtain ⟨⟨fits, hcalls, noneAfterEnd, guarded⟩, closed, failed⟩ := h
  have hall : calls (new ++ more) = .declare :: courses.flatMap (Course.calls d) ++ [.undeclare] := by
    rw [Cycle.calls_append, hcalls, hmore]
  have hacquired : acquired (calls (new ++ more)) = acquired (courses.flatMap (Course.calls d)) := by
    rw [hall, Cycle.acquired_append]
    exact List.append_nil _
  have hreleased : released (calls (new ++ more)) = released (courses.flatMap (Course.calls d)) := by
    rw [hall, Cycle.released_append]
    exact List.append_nil _
  refine ⟨fits, hall, declare_not_mem_courses courses, ?_, ?_, ?_, ?_, closed, ?_⟩
  · rw [hreleased, hacquired]
    exact released_courses courses
  · rw [Cycle.calls_append, hmore]
    refine List.pairwise_append.2 ⟨noneAfterEnd, List.pairwise_singleton _ _, ?_⟩
    rintro earlier - later hmem - frame rfl
    cases List.mem_singleton.1 hmem
  · exact guarded.append (guarded_of_no_acquire _ fun frame => by simp [hmore])
  · intro summary hsummary
    rw [hacquired]
    exact (closed summary hsummary).tally.cycles
  · intro fault hfault
    obtain hfailed | ⟨rfl, -⟩ := failed fault hfault
    · exact hfailed
    · exact absurd hfault (hresult _)

/-- Whatever the devices do and whenever requests come, a run that ends keeps the law of runs, and one that is broken
off has kept it until a count has outgrown its word. -/
theorem run_keeps_law (h : d.Reachable) (p : Periodic) (w : Surroundings σ F) (sound : s.Sound) (n : Nat)
    {result : Except Fault Summary} {d' : Detector}
    (ended : ((p.runFor n (Recorded.devices w) (Recorded.listener w) d).run s).1 = some (result, d')) :
    ∃ new courses,
      ((p.runFor n (Recorded.devices w) (Recorded.listener w) d).run s).2.past = s.past ++ new ∧
        (Law p d s.past new courses result ∨ Overrun p d s.past new courses result) := by
  obtain ⟨started, hstart, -, hdeclare, hdetector, hsummary⟩ := emits_start (w := w) p d s
  rw [Periodic.runFor, Recorded.run_bind] at ended ⊢
  generalize (p.start (Recorded.devices w) d).run s = r at *
  obtain ⟨st, s'⟩ := r
  dsimp only at *
  have hgoing : Going p d s.past started [] st := going_start h.fitted hdeclare hdetector hsummary
  rw [Recorded.run_bind] at ended ⊢
  cases hsteps : ((p.steps (Recorded.devices w) (Recorded.listener w) st n).run s').1 with
  | none =>
    rw [hsteps] at ended
    cases ended
  | some looped =>
    obtain ⟨more, courses, hloop, hended⟩ :=
      steps_ended n hgoing (hstart.sound sound) hstart.past hsteps
    have hpast := (hstart.trans hloop).past
    obtain ⟨looped, d''⟩ := looped
    rw [hsteps] at ended
    dsimp only at ended hended ⊢
    rw [Recorded.run_bind] at ended ⊢
    by_cases hbroken : ∃ cause, looped = .error (.overflow cause)
    · obtain ⟨cause, rfl⟩ := hbroken
      rw [finish_overflow] at ended ⊢
      obtain ⟨rfl, -⟩ := Prod.mk.inj (Option.some.inj ended)
      exact ⟨started ++ more, courses, hpast, .inr hended.overrun⟩
    · rw [not_exists] at hbroken
      obtain ⟨finished, hfinish, -, hundeclare, hresult⟩ := emits_finish (w := w) d'' hbroken
        ((p.steps (Recorded.devices w) (Recorded.listener w) st n).run s').2
      rw [hresult] at ended
      obtain ⟨rfl, -⟩ := Prod.mk.inj (Option.some.inj ended)
      exact ⟨started ++ more ++ finished, courses, ((hstart.trans hloop).trans hfinish).past,
        .inl (hended.law hbroken hundeclare)⟩

/-- Devices whose model fails on every other frame, and a request that comes when one frame is left. -/
def faltering (tensor : ByteArray) : Surroundings Nat Nat :=
  { Surroundings.steady tensor with
    devices :=
      { (Surroundings.steady tensor).devices with
        model :=
          { (Surroundings.steady tensor).devices.model with
            infer := fun frame => pure (if frame % 2 = 0 then .ok () else .error "busy") } }
    requests := fun left => (if left = 1 then 1 else 0, left) }

/-- Of four frames three are acquired before the request, of which one is published. -/
theorem run_keeps_law_faltering :
    Detector.fourRows.Reachable ∧ (Scene.opening 4 : Scene Nat Nat).Sound ∧
      ∃ summary d' new courses,
        ((Periodic.runFor 4 ⟨defaultPeriod, some 9⟩ (Recorded.devices (faltering fourRowsView.bytes))
          (Recorded.listener _) .fourRows).run (.opening 4)).1 = some (.ok summary, d') ∧
        summary.published = 1 ∧ summary.skipped = 2 ∧ summary.detections = 2 ∧
        summary.sourceLost = false ∧ summary.interrupted = true ∧
        ((Periodic.runFor 4 ⟨defaultPeriod, some 9⟩ (Recorded.devices (faltering fourRowsView.bytes))
          (Recorded.listener _) .fourRows).run (.opening 4)).2.past = [] ++ new ∧
        Law ⟨defaultPeriod, some 9⟩ .fourRows [] new courses (.ok summary) := by
  have hresult : ((Periodic.runFor 4 ⟨defaultPeriod, some 9⟩ (Recorded.devices (faltering fourRowsView.bytes))
      (Recorded.listener _) .fourRows).run (.opening 4)).1.map Prod.fst =
        some (.ok ⟨1, 2, 2, false, true,
          [fourRowsView.detection ⟨1, by decide⟩, fourRowsView.detection ⟨3, by decide⟩]⟩) := by
    decide +kernel
  obtain ⟨⟨_, d'⟩, ended, rfl⟩ := Option.map_eq_some_iff.1 hresult
  obtain ⟨new, courses, hpast, hlaw | hoverrun⟩ := run_keeps_law Detector.reachable_fourRows _
    (faltering fourRowsView.bytes) (Scene.sound_opening 4) 4 ended
  · exact ⟨Detector.reachable_fourRows, Scene.sound_opening 4, _, d', new, courses, ended, rfl, rfl, rfl, rfl, rfl,
      hpast, hlaw⟩
  · cases hoverrun.result

end FrameDetect.Run
