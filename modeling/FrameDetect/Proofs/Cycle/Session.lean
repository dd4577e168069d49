import FrameDetect.Proofs.Cycle.Reachable

/-!
# Sessions

A session is any number of cycles, with changes of the thresholds between them.  Each cycle takes one
course, so that over a session the frames that are released are the frames that were acquired.
-/

namespace FrameDetect.Cycle

open FrameDetect.Settings (Thresholds)
open FrameDetect.Tensor (oneRowView)

variable {σ F : Type}

/-- The frames that were acquired, in order. -/
def acquired (made : List (DeviceCall F)) : List F :=
  made.filterMap fun
    | .acquire frame => frame
    | _ => none

/-- The frames that were released, in order. -/
def released (made : List (DeviceCall F)) : List F :=
  made.filterMap fun
    | .release frame => some frame
    | _ => none

@[simp] theorem acquired_append (xs ys : List (DeviceCall F)) :
    acquired (xs ++ ys) = acquired xs ++ acquired ys :=
  List.filterMap_append

@[simp] theorem released_append (xs ys : List (DeviceCall F)) :
    released (xs ++ ys) = released xs ++ released ys :=
  List.filterMap_append

/-- Announcements leave the source alone. -/
theorem acquired_announcements (d : Detector) (detections : List Detect.Detection) :
    acquired (detections.flatMap (Course.announcement (F := F) d)) = [] := by
  induction detections with
  | nil => rfl
  | cons x rest ih =>
    rw [List.flatMap_cons, acquired_append, ih]
    rfl

theorem released_announcements (d : Detector) (detections : List Detect.Detection) :
    released (detections.flatMap (Course.announcement (F := F) d)) = [] := by
  induction detections with
  | nil => rfl
  | cons x rest ih =>
    rw [List.flatMap_cons, released_append, ih]
    rfl

/-- On each course the frame that is released is the one that was acquired. -/
theorem Course.released_calls (d : Detector) (course : Course F) :
    released (course.calls d) = acquired (course.calls d) := by
  cases course with
  | published frame spent view =>
    rw [calls, released_append, released_append, acquired_append, acquired_append,
      released_announcements, acquired_announcements]
    rfl
  | _ => rfl

/-! ## Cycle after cycle -/

/-- What the owner of a detector does with it. -/
inductive Operation where
  | cycle
  /-- Sets other thresholds, if they are from zero to one. -/
  | setThresholds (confidence overlap : Float32)

section
variable {m : Type → Type} [Monad m] [MonadLog m] [MonadClock m]

/-- Does one thing with a detector. -/
def operate (devices : Devices m F) (d : Detector) : Operation → m Detector
  | .cycle => do
    let (_, d) ← run devices d
    return d
  | .setThresholds confidence overlap =>
    match Thresholds.ofNumbers confidence overlap with
    | .error _ => return d
    | .ok thresholds => setThresholds d thresholds

/-- Does one thing after the other with a detector. -/
def session (devices : Devices m F) (d : Detector) : List Operation → m Detector
  | [] => return d
  | operation :: rest => do session devices (← operate devices d operation) rest

end

variable {w : Surroundings σ F} {d : Detector}

theorem emits_operate (h : d.Fitted) (operation : Operation) :
    Emits (operate (Recorded.devices w) d operation) fun made d' =>
      released made = acquired made ∧ d'.Fitted := by
  cases operation with
  | cycle =>
    refine (emits_run h).bind ?_
    rintro _ ⟨result, d'⟩ ⟨course, -, rfl, -, hcontinues⟩
    refine emits_pure ⟨?_, hcontinues.fitted⟩
    rw [List.append_nil]
    exact course.released_calls d
  | setThresholds confidence overlap =>
    dsimp only [operate]
    cases ht : Thresholds.ofNumbers confidence overlap with
    | error fault => exact emits_pure ⟨rfl, h⟩
    | ok thresholds =>
      refine (emits_setThresholds d thresholds).mono ?_
      rintro _ _ ⟨rfl, rfl⟩
      exact ⟨rfl, h.withThresholds (Detector.isNaN_overlap_of_ofNumbers ht)⟩

/-- Operation by operation, what is acquired is released. -/
theorem emits_session (h : d.Fitted) (operations : List Operation) :
    Emits (session (Recorded.devices w) d operations) fun made d' =>
      released made = acquired made ∧ d'.Fitted := by
  induction operations generalizing d with
  | nil => exact emits_pure ⟨rfl, h⟩
  | cons operation rest ih =>
    refine (emits_operate h operation).bind ?_
    rintro made d' ⟨hmade, h'⟩
    refine (ih h').mono ?_
    rintro more d'' ⟨hmore, h''⟩
    refine ⟨?_, h''⟩
    rw [released_append, acquired_append, hmade, hmore]

/-- A course accounts for the calls of a cycle and for its result. -/
structure Course.Explains (course : Course F) (d : Detector) (made : List (DeviceCall F))
    (result : Except Fault Outcome) : Prop where
  fits : course.Fits d
  calls : made = course.calls d
  result : result = course.result d
  ascending : (course.detections d).Pairwise fun x y => x.index < y.index

/-- Whatever devices do, a cycle takes exactly one course, and over a session the released frames are the
acquired ones. -/
theorem cycle_takes_one_course (h : d.Reachable) (w : Surroundings σ F) (s : Scene σ F) :
    (∃ new, ((run (Recorded.devices w) d).run s).2.past = s.past ++ new ∧
      ∃! course : Course F, course.Explains d (calls new) ((run (Recorded.devices w) d).run s).1.1) ∧
    ∀ operations, ∃ new,
      ((session (Recorded.devices w) d operations).run s).2.past = s.past ++ new ∧
        released (calls new) = acquired (calls new) := by
  refine ⟨?_, fun operations => ?_⟩
  · obtain ⟨new, hext, -, course, hfits, hcalls, hresult, -⟩ := emits_run (w := w) h.fitted s
    have hascending : (course.detections d).Pairwise fun x y => x.index < y.index := by
      cases course with
      | published frame spent view => exact view.detections_ascending _ _
      | _ => exact List.Pairwise.nil
    refine ⟨new, hext.past, course, ⟨hfits, hcalls, hresult, hascending⟩, ?_⟩
    intro course' h'
    exact Course.eq_of_calls h'.fits hfits (h'.calls.symm.trans hcalls)
  · obtain ⟨new, hext, -, hreleased, -⟩ := emits_session (w := w) h.fitted operations s
    exact ⟨new, hext.past, hreleased⟩

theorem cycle_takes_one_course_oneRow :
    Detector.oneRow.Reachable ∧
    (∃ new, ((run (Recorded.devices (.steady oneRowView.bytes)) .oneRow).run (.opening 2)).2.past =
        (Scene.opening 2 : Scene Nat Nat).past ++ new ∧
      ∃! course : Course Nat, course.Explains .oneRow (calls new)
        ((run (Recorded.devices (.steady oneRowView.bytes)) .oneRow).run (.opening 2)).1.1) ∧
    ∀ operations, ∃ new,
      ((session (Recorded.devices (.steady oneRowView.bytes)) .oneRow operations).run
          (.opening 2)).2.past = (Scene.opening 2 : Scene Nat Nat).past ++ new ∧
        released (calls new) = acquired (calls new) :=
  ⟨Detector.reachable_oneRow,
    cycle_takes_one_course Detector.reachable_oneRow (.steady oneRowView.bytes) (.opening 2)⟩

end FrameDetect.Cycle
