import FrameDetect.Proofs.Cycle.Session
import FrameDetect.Proofs.Run.Counts

/-!
# Chronicles of runs

What happens in a run are the courses of its cycles, one after the other.  A chronicle adds that no cycle
follows one that ends the run, and that before each cycle somebody looked for requests in vain.  A tally
says what the counts of a summary have to do with the courses.
-/

namespace FrameDetect.Run

open FrameDetect.Cycle (Course DeviceCall Detector Happening acquired calls released)
open FrameDetect.Detect (Detection)

variable {F : Type} {d : Detector}

/-! ## Calls that end a run -/

/-- Whether no cycle may follow a call: the source is lost, or the tensor has too few bytes. -/
def Ends (d : Detector) : DeviceCall F → Prop
  | .acquire none => True
  | .output _ (.ok bytes) => bytes.size < d.layout.tensorSize
  | _ => False

/-- No frame is acquired after a call that ends the run. -/
def NoneAfterEnd (d : Detector) (made : List (DeviceCall F)) : Prop :=
  made.Pairwise fun earlier later => Ends d earlier → ∀ frame, later ≠ .acquire frame

theorem noneAfterEnd_of_goesOn {made : List (DeviceCall F)} (h : ∀ call ∈ made, ¬Ends d call) :
    NoneAfterEnd d made := by
  apply List.Pairwise.imp_of_mem (R := fun _ _ => True) _ (List.pairwise_of_forall fun _ _ => trivial)
  intro earlier later hmem _ _ hends
  exact absurd hends (h earlier hmem)

theorem NoneAfterEnd.append {made more : List (DeviceCall F)} (goesOn : ∀ call ∈ made, ¬Ends d call)
    (h : NoneAfterEnd d more) : NoneAfterEnd d (made ++ more) := by
  refine List.pairwise_append.2 ⟨noneAfterEnd_of_goesOn goesOn, h, ?_⟩
  intro earlier hmem later _ hends
  exact absurd hends (goesOn earlier hmem)

/-- A course acquires a frame at its beginning and nowhere else. -/
theorem calls_eq_acquire (course : Course F) :
    ∃ frame rest, course.calls d = .acquire frame :: rest ∧ ∀ other, .acquire other ∉ rest := by
  cases course with
  | published frame spent view =>
    refine ⟨some frame, _, rfl, fun other hmem => ?_⟩
    simp [Course.announcement] at hmem
  | _ => exact ⟨_, _, rfl, by simp⟩

/-- No course acquires a frame after it has ended the run. -/
theorem noneAfterEnd_calls (course : Course F) : NoneAfterEnd d (course.calls d) := by
  obtain ⟨frame, rest, hcalls, hrest⟩ := calls_eq_acquire (d := d) course
  have hlater : ∀ later ∈ rest, ∀ other, later ≠ .acquire other := by
    rintro later hmem other rfl
    exact hrest other hmem
  rw [hcalls]
  refine List.pairwise_cons.2 ⟨fun later hmem _ => hlater later hmem, ?_⟩
  apply List.Pairwise.imp_of_mem (R := fun _ _ => True) _ (List.pairwise_of_forall fun _ _ => trivial)
  intro _ later _ hmem _ _
  exact hlater later hmem

/-- A course that ends neither with a fault nor with the loss of the source ends no run. -/
theorem goesOn_calls {course : Course F} (h : course.Fits d) {outcome : Cycle.Outcome}
    (hresult : course.result d = .ok outcome) (hlost : outcome ≠ .sourceLost) :
    ∀ call ∈ course.calls d, ¬Ends d call := by
  cases course with
  | lost =>
    cases hresult
    exact absurd rfl hlost
  | malformed => cases hresult
  | published frame spent view =>
    have enough := view.enough
    rw [h] at enough
    rw [Course.calls, List.forall_mem_append, List.forall_mem_append]
    refine ⟨⟨by simp [Ends, enough], fun call hmem => ?_⟩, by simp [Ends]⟩
    obtain ⟨x, -, hcall⟩ := List.mem_flatMap.1 hmem
    rcases List.mem_pair.1 hcall with rfl | rfl <;> exact id
  | _ => simp [Course.calls, Ends]

/-- Cycles neither declare events nor undeclare them. -/
theorem declare_not_mem_courses (courses : List (Course F)) :
    .declare ∉ courses.flatMap (Course.calls d) ∧ .undeclare ∉ courses.flatMap (Course.calls d) := by
  have hcourse : ∀ course : Course F, .declare ∉ course.calls d ∧ .undeclare ∉ course.calls d := by
    intro course
    cases course <;> simp [Course.calls, Course.announcement]
  constructor <;> intro hmem <;> obtain ⟨course, -, hcall⟩ := List.mem_flatMap.1 hmem
  · exact (hcourse course).1 hcall
  · exact (hcourse course).2 hcall

/-- On all courses together the frames that are released are those that were acquired. -/
theorem released_courses (courses : List (Course F)) :
    released (courses.flatMap (Course.calls d)) = acquired (courses.flatMap (Course.calls d)) := by
  induction courses with
  | nil => rfl
  | cons course rest ih =>
    rw [List.flatMap_cons, Cycle.released_append, Cycle.acquired_append, course.released_calls, ih]

/-! ## Looks at the requests -/

/-- Before each cycle among the new entries there is a look at its head, before which no request has been
made. -/
def Guarded (past new : List (Happening F)) : Prop :=
  ∀ before frame after, new = before ++ .call (.acquire frame) :: after →
    ∃ earlier later, before = earlier ++ .look :: later ∧ .look ∉ later ∧
      .request ∉ past ++ earlier

theorem guarded_of_no_acquire (past : List (Happening F)) {new : List (Happening F)}
    (h : ∀ frame, .acquire frame ∉ calls new) : Guarded past new := by
  rintro before frame after rfl
  exact absurd (Cycle.mem_calls.2 (List.mem_append_right _ List.mem_cons_self)) (h frame)

/-- A cycle behind a look that finds no request. -/
theorem guarded_of_look {past head body : List (Happening F)} (hrequest : .request ∉ past ++ head)
    (hhead : calls head = []) (hlook : .look ∉ body) : Guarded past (head ++ .look :: body) := by
  intro before frame after heq
  -- The cycle is behind the look, since there are no calls in front of it.
  rcases List.append_eq_append_iff.1 heq with ⟨middle, hbefore, hbody⟩ | ⟨middle, hmiddle, hafter⟩
  · cases middle with
    | nil => cases hbody
    | cons entry later =>
      obtain ⟨rfl, rfl⟩ := List.cons.inj hbody
      exact ⟨head, later, hbefore, fun hmem => hlook (List.mem_append_left _ hmem), hrequest⟩
  · cases middle with
    | nil => cases hafter
    | cons entry later =>
      obtain ⟨rfl, -⟩ := List.cons.inj hafter
      rw [hmiddle, Cycle.calls_append, Cycle.calls_call] at hhead
      exact absurd hhead (by simp)

theorem Guarded.append {past xs ys : List (Happening F)} (hx : Guarded past xs)
    (hy : Guarded (past ++ xs) ys) : Guarded past (xs ++ ys) := by
  intro before frame after heq
  rcases List.append_eq_append_iff.1 heq with ⟨middle, rfl, hys⟩ | ⟨middle, hxs, hafter⟩
  · obtain ⟨earlier, later, rfl, hlook, hrequest⟩ := hy middle frame after hys
    refine ⟨xs ++ earlier, later, by rw [List.append_assoc], hlook, ?_⟩
    rw [← List.append_assoc]
    exact hrequest
  · cases middle with
    | nil =>
      obtain ⟨earlier, later, hnil, -⟩ := hy [] frame after hafter.symm
      exact absurd hnil (by simp)
    | cons entry later =>
      obtain ⟨rfl, -⟩ := List.cons.inj hafter
      exact hx before frame later hxs

/-! ## The courses of a run -/

/-- What has happened in a run since the entries of `past`: the events were declared, and then the cycles
took the given courses. -/
structure Chronicle (d : Detector) (past new : List (Happening F)) (courses : List (Course F)) :
    Prop where
  fits : ∀ course ∈ courses, course.Fits d
  calls : calls new = .declare :: courses.flatMap (Course.calls d)
  noneAfterEnd : NoneAfterEnd d (Cycle.calls new)
  guarded : Guarded past new

namespace Chronicle

variable {past new more : List (Happening F)} {courses : List (Course F)}

/-- Entries that are no calls. -/
theorem append_of_no_calls (h : Chronicle d past new courses) (hmore : Cycle.calls more = []) :
    Chronicle d past (new ++ more) courses := by
  have hcalls : Cycle.calls (new ++ more) = Cycle.calls new := by
    rw [Cycle.calls_append, hmore, List.append_nil]
  exact ⟨h.fits, hcalls.trans h.calls, hcalls ▸ h.noneAfterEnd,
    h.guarded.append (guarded_of_no_acquire _ fun frame => by simp [hmore])⟩

/-- One more cycle, in a run that no call has ended. -/
theorem append_cycle (h : Chronicle d past new courses)
    (goesOn : ∀ call ∈ Cycle.calls new, ¬Ends d call) {course : Course F} (hfits : course.Fits d)
    (hmore : Cycle.calls more = course.calls d) (hguarded : Guarded (past ++ new) more) :
    Chronicle d past (new ++ more) (courses ++ [course]) := by
  refine ⟨?_, ?_, ?_, h.guarded.append hguarded⟩
  · intro other hmem
    rcases List.mem_append.1 hmem with hmem | hmem
    · exact h.fits other hmem
    · rw [List.mem_singleton.1 hmem]
      exact hfits
  · rw [Cycle.calls_append, h.calls, hmore]
    simp
  · rw [Cycle.calls_append, hmore]
    exact NoneAfterEnd.append goesOn (noneAfterEnd_calls course)

end Chronicle

/-! ## Counts -/

/-- The lists that were published, in order. -/
def publications (d : Detector) (courses : List (Course F)) : List (List Detection) :=
  courses.filterMap fun course =>
    match course.result d with
    | .ok (.published detections) => some detections
    | _ => none

theorem publications_append (courses more : List (Course F)) :
    publications d (courses ++ more) = publications d courses ++ publications d more :=
  List.filterMap_append

/-- The counts of a summary are those of the courses of a run. -/
structure Tally (d : Detector) (courses : List (Course F)) (summary : Summary) : Prop where
  cycles : summary.published.toNat + summary.skipped.toNat = (acquired (courses.flatMap (Course.calls d))).length
  detections : summary.detections.toNat = (publications d courses).flatten.length
  last : summary.last = (publications d courses).getLast?.getD []

theorem tally_empty : Tally d ([] : List (Course F)) .empty := ⟨rfl, rfl, rfl⟩

/-- To note an interruption changes no count. -/
theorem Tally.interrupted {courses : List (Course F)} {summary : Summary}
    (h : Tally d courses summary) : Tally d courses { summary with interrupted := true } :=
  ⟨h.cycles, h.detections, h.last⟩

/-- One more course adds what it acquires and what it publishes. -/
theorem tally_append {courses : List (Course F)} {course : Course F} {summary : Summary}
    (cycles : summary.published.toNat + summary.skipped.toNat =
      (acquired (courses.flatMap (Course.calls d))).length + (acquired (course.calls d)).length)
    (detections : summary.detections.toNat =
      (publications d courses).flatten.length + (publications d [course]).flatten.length)
    (last : summary.last = (publications d courses ++ publications d [course]).getLast?.getD []) :
    Tally d (courses ++ [course]) summary := by
  refine ⟨?_, ?_, ?_⟩
  · rw [cycles, List.flatMap_append, Cycle.acquired_append, List.length_append, List.flatMap_singleton]
  · rw [detections, publications_append, List.flatten_append, List.length_append]
  · rw [last, publications_append]

/-- A skipped cycle has a frame and publishes nothing. -/
theorem Tally.skip {courses : List (Course F)} {summary summary' : Summary} (h : Tally d courses summary)
    {course : Course F} {frame : F} {stage : Cycle.Stage} {reason : String}
    (hacquired : acquired (course.calls d) = [frame])
    (hresult : course.result d = .ok (.skipped stage reason))
    (hrecord : summary.record (.skipped stage reason) = .ok summary') :
    Tally d (courses ++ [course]) summary' := by
  have hnone : publications d [course] = [] := by simp [publications, hresult]
  obtain ⟨hskipped, hrest⟩ := Summary.record_skipped hrecord
  apply tally_append
  · rw [← h.cycles, hacquired, hskipped, hrest]
    exact (Nat.add_assoc ..).symm
  · rw [← h.detections, hnone, hrest]
    rfl
  · rw [hnone, List.append_nil, hrest]
    exact h.last

/-- The outcome of one more cycle is recorded rightly. -/
theorem Tally.record {courses : List (Course F)} {summary summary' : Summary} (h : Tally d courses summary)
    {course : Course F} {outcome : Cycle.Outcome} (hresult : course.result d = .ok outcome)
    (hrecord : summary.record outcome = .ok summary') : Tally d (courses ++ [course]) summary' := by
  cases course with
  | lost =>
    cases hresult
    cases hrecord
    apply tally_append
    · exact h.cycles
    · exact h.detections
    · have hnone : publications d [(.lost : Course F)] = [] := rfl
      rw [hnone, List.append_nil]
      exact h.last
  | notPrepared =>
    cases hresult
    exact h.skip rfl rfl hrecord
  | notInferred =>
    cases hresult
    exact h.skip rfl rfl hrecord
  | noOutput =>
    cases hresult
    exact h.skip rfl rfl hrecord
  | malformed => cases hresult
  | published frame spent view =>
    cases hresult
    obtain ⟨hpublished, hdetections, hrest⟩ := Summary.record_published hrecord
    rw [UInt64.toNat_ofNat_of_lt' (view.length_detections_lt d.thresholds d.tieBreak)] at hdetections
    have hone : publications d [Course.published frame spent view] =
        [view.detections d.thresholds d.tieBreak] := rfl
    have hacquired : acquired ((Course.published frame spent view).calls d) = [frame] := by
      rw [Course.calls, Cycle.acquired_append, Cycle.acquired_append, Cycle.acquired_announcements]
      rfl
    apply tally_append
    · rw [← h.cycles, hacquired, hpublished, hrest]
      exact Nat.add_right_comm ..
    · rw [hdetections, h.detections, hone, List.flatten_singleton]
    · rw [hone, List.getLast?_concat, hrest]
      rfl

/-- A list that is published in one more course is published after those of all courses before. -/
theorem publications_concat {courses : List (Course F)} {course : Course F} {found : List Detection}
    (hresult : course.result d = .ok (.published found)) :
    publications d (courses ++ [course]) = publications d courses ++ [found] := by
  rw [publications_append]
  simp [publications, hresult]

end FrameDetect.Run
