import FrameDetect.Proofs.Run.Chronicle
import FrameDetect.Run.Periodic

/-!
# One step of a periodic run

A step looks for requests, then counts the cycles, and unless enough are done runs one more and waits.  `Does`
lists all that it can do; everything about runs follows from this list.
-/

namespace FrameDetect.Run

open FrameDetect.Cycle (Course Detector Emits Extends Happening Outcome Recorded Scene
  Surroundings calls emits_call emits_elapsed emits_log emits_pure emits_run emits_waitUntil
  exists_of_look)
open FrameDetect.Run.Periodic (Result State)

variable {σ F : Type} {d d' : Detector}

/-! ## Detectors with the same settings -/

/-- The courses of a cycle depend on the settings of the detector alone. -/
theorem course_congr (h : d.Continues d') (course : Course F) :
    (course.Fits d' ↔ course.Fits d) ∧ course.calls d' = course.calls d ∧
      course.result d' = course.result d := by
  obtain ⟨layout, labels, thresholds, tieBreak, scratch⟩ := d
  obtain ⟨layout', labels', thresholds', tieBreak', scratch'⟩ := d'
  obtain ⟨rfl, rfl, rfl, rfl, -⟩ := h
  cases course <;> exact ⟨Iff.rfl, rfl, rfl⟩

/-! ## What a step does -/

/-- What comes after a cycle, by the summary after its result. -/
inductive Follows (d : Detector) (summary : Summary) (result : Except Cycle.Fault Outcome) :
    Sum State Result → Prop
  | failed (fault : Fault) (d' : Detector) : summary.extend result = .error fault →
    Follows d summary result (.inr (.error fault, d'))
  | lost (summary' : Summary) (d' : Detector) : summary.extend result = .ok summary' →
    summary'.sourceLost = true → Follows d summary result (.inr (.ok summary', d'))
  | interrupted (summary' : Summary) (d' : Detector) : summary.extend result = .ok summary' →
    summary'.sourceLost = false →
    Follows d summary result (.inr (.ok { summary' with interrupted := true }, d'))
  | next {st : State} : summary.extend result = .ok st.summary → st.summary.sourceLost = false →
    d.Continues st.detector → Follows d summary result (.inl st)

/-- What a step from a state of a run can do after the entries of `past`. -/
inductive Does (p : Periodic) (d : Detector) (past : List (Happening F)) (st : State) :
    List (Happening F) → Sum State Result → Prop
  /-- There has been a request. -/
  | interrupted {new : List (Happening F)} : calls new = [] →
    Does p d past st new (.inr (.ok { st.summary with interrupted := true }, st.detector))
  /-- The next cycle cannot be counted. -/
  | overrun {new : List (Happening F)} (cause : Overflow) : calls new = [] →
    p.turn st.summary = .error cause → Does p d past st new (.inr (.error (.overflow cause), st.detector))
  /-- Enough cycles are done. -/
  | complete {new : List (Happening F)} (cycles : UInt64) : calls new = [] →
    p.turn st.summary = .ok (.complete cycles) → Does p d past st new (.inr (.ok st.summary, st.detector))
  /-- A cycle is run. -/
  | cycle {new : List (Happening F)} {next : Sum State Result} (number : UInt64) (course : Course F) :
    p.turn st.summary = .ok (.cycle number) → Guarded past new → course.Fits d →
    calls new = course.calls d → Follows d st.summary (course.result d) next →
    Does p d past st new next

variable {w : Surroundings σ F}

/-- A step does one of these things. -/
theorem step_does {p : Periodic} {s : Scene σ F} {st : State} (sound : s.Sound) (hd : d.Continues st.detector) :
    ∃ new, Extends s ((p.step (Recorded.devices w) (Recorded.listener w) st).run s).2 new ∧
      Does p d s.past st new ((p.step (Recorded.devices w) (Recorded.listener w) st).run s).1 := by
  unfold Periodic.step
  refine exists_of_look sound ?_
  intro triggered head hhead hrequest
  -- A look that finds nothing shows that no request has been made before it.
  cases triggered with
  | true =>
    refine (emits_log _ _).bind ?_
    rintro _ _ rfl
    refine emits_pure fun body _ hbody => .interrupted ?_
    simp [hhead, hbody]
  | false =>
    have hnone : .request ∉ s.past ++ head := fun hmem => Bool.false_ne_true (hrequest.2 hmem)
    simp only [Bool.false_eq_true, if_false]
    cases hturn : p.turn st.summary with
    | error cause =>
      refine emits_pure fun body _ hbody => .overrun cause ?_ hturn
      simp [hhead, hbody]
    | ok turn =>
      cases turn with
      | complete cycles =>
        refine (emits_log _ _).bind ?_
        rintro _ _ rfl
        refine emits_pure fun body _ hbody => .complete cycles ?_ hturn
        simp [hhead, hbody]
      | cycle number =>
        refine (emits_log _ _).bind ?_
        rintro _ _ rfl
        refine (emits_run hd.fitted).bind ?_
        rintro _ ⟨result, d'⟩ ⟨course, hfits, rfl, hresult, hd'⟩
        obtain ⟨hfits', hcalls, hresult'⟩ := course_congr hd course
        have hd'' : d.Continues d' := hd.trans hd'
        have cycle : ∀ next, Follows d st.summary result next → ∀ body, .look ∉ body →
            calls body = course.calls st.detector → Does p d s.past st (head ++ .look :: body) next := by
          intro next hnext body hlook hbody
          refine .cycle number course hturn (guarded_of_look hnone hhead hlook) (hfits'.1 hfits) ?_ ?_
          · simp [hhead, hbody, hcalls]
          · rw [← hresult', ← hresult]
            exact hnext
        dsimp only
        cases hextend : st.summary.extend result with
        | error fault =>
          refine emits_pure fun body hlook hbody => cycle _ (.failed fault d' hextend) body hlook ?_
          simpa using hbody
        | ok summary =>
          by_cases hlost : summary.sourceLost = true
          · dsimp only
            rw [if_pos hlost]
            refine (emits_log _ _).bind ?_
            rintro _ _ rfl
            refine emits_pure fun body hlook hbody => cycle _ (.lost summary d' hextend hlost) body hlook ?_
            simpa using hbody
          · have hgoes : summary.sourceLost = false := Bool.eq_false_iff.2 hlost
            dsimp only
            rw [if_neg hlost]
            refine emits_elapsed.bind ?_
            rintro _ now rfl
            refine (emits_waitUntil _).bind ?_
            rintro _ waited rfl
            cases waited with
            | true =>
              refine (emits_log _ _).bind ?_
              rintro _ _ rfl
              refine emits_pure fun body hlook hbody =>
                cycle _ (.interrupted summary d' hextend hgoes) body hlook ?_
              simpa using hbody
            | false =>
              refine emits_pure fun body hlook hbody => cycle _ (.next hextend hgoes hd'') body hlook ?_
              simpa using hbody

end FrameDetect.Run
