import FrameDetect.Run.Exchange
import Mathlib

/-!
# Requests are never lost

A listener that has been asked for once knows it from then on.  Whatever the order in which triggers are
used, copied and given up while the listener asks and waits, each of its answers tells whether there has
been a request, and a wait without one lasts until its moment.
-/

namespace FrameDetect.Run

open FrameDetect.Time (Duration)

namespace Shutdown

/-- Whether there has been a request. -/
def isRequested (s : Shutdown) : Prop := s.noticed = true ∨ 0 < s.pending

/-- Any number of requests to someone who listens. -/
theorem trigger_iterate {s : Shutdown} (h : s.listening = true) (n : Nat) :
    trigger^[n] s = { s with pending := s.pending + n } := by
  induction n with
  | zero => rfl
  | succ n ih =>
    rw [Function.iterate_succ_apply', ih, trigger, if_pos h]
    rfl

theorem isTriggered_fst (s : Shutdown) : s.isTriggered.1 = true ↔ s.isRequested := by
  unfold isTriggered isRequested
  split_ifs with hn hp <;> simp [*]

/-- To ask for requests does not forget any. -/
theorem isRequested_isTriggered (s : Shutdown) : s.isTriggered.2.isRequested ↔ s.isRequested := by
  unfold isTriggered isRequested
  split_ifs with hn hp <;> simp [*]

theorem listening_isTriggered (s : Shutdown) : s.isTriggered.2.listening = s.listening := by
  unfold isTriggered
  split_ifs <;> rfl

/-- To ask without an answer changes nothing. -/
theorem isTriggered_of_not_isRequested {s : Shutdown} (h : ¬s.isRequested) :
    s.isTriggered = (false, s) := by
  unfold isRequested at h
  unfold isTriggered
  rw [if_neg fun hn => h (.inl hn), if_neg fun hp => h (.inr hp)]

/-- Requests that come during a wait are requests like others. -/
theorem wait_eq {s : Shutdown} (h : s.listening = true) (n : Nat) :
    s.wait n = (trigger^[n] s).isTriggered := by
  rw [trigger_iterate h, wait]

/-- Whoever listens knows of a request that is made. -/
theorem isRequested_trigger {s : Shutdown} (h : s.listening = true) : s.trigger.isRequested := by
  rw [trigger, if_pos h]
  exact .inr (Nat.succ_pos _)

theorem listening_trigger (s : Shutdown) : s.trigger.listening = s.listening := by
  unfold trigger
  split_ifs <;> rfl

/-- A request is ignored if nobody listens. -/
theorem trigger_of_not_listening {s : Shutdown} (h : s.listening = false) : s.trigger = s := by
  rw [trigger, if_neg (Bool.eq_false_iff.1 h)]

end Shutdown

namespace Exchange

variable {s s' : Exchange} {past : List Action} {deadline : Duration}

theorem isFree_iff : s.isFree = true ↔ s.shutdown.listening = true ∧ s.activity = .free := by
  simp [isFree]

/-! ## What holds at any time -/

/-- The listener is in a wait until a moment. -/
def Waits (s : Exchange) (deadline : Duration) : Prop :=
  s.activity = .waiting deadline ∨ s.activity = .sleeping deadline

/-- What holds after the actions of `past`. -/
structure Sound (past : List Action) (s : Exchange) : Prop where
  /-- Whoever listens knows of a request just if there has been one. -/
  heard : s.shutdown.listening = true → (.trigger ∈ past ↔ s.shutdown.isRequested)
  /-- Only one who listens waits. -/
  listens : ∀ deadline, s.Waits deadline → s.shutdown.listening = true
  /-- The listener sleeps only when no request can come any more. -/
  silent : ∀ deadline, s.activity = .sleeping deadline → ¬s.shutdown.isRequested ∧ s.triggers = 0

theorem sound_opening (now : Duration) : Sound [] (opening now) := by
  refine ⟨fun _ => ?_, fun _ _ => rfl, fun deadline h => ?_⟩
  · simp [opening, Shutdown.quiet, Shutdown.isRequested]
  · cases h

theorem Sound.requested_iff (h : Sound past s) (w : s.Waits deadline) :
    .trigger ∈ past ↔ s.shutdown.isRequested :=
  h.heard (h.listens deadline w)

/-! ## What looking comes to -/

/-- A request ends a wait. -/
theorem Sound.look_of_isRequested (h : Sound past s) (w : s.Waits deadline)
    (requested : s.shutdown.isRequested) :
    s.look = some ({ s with shutdown := s.shutdown.isTriggered.2, activity := .free }, some true) := by
  have hfst := (Shutdown.isTriggered_fst s.shutdown).2 requested
  rcases w with hwaiting | hsleeping
  · rw [look, hwaiting]
    generalize s.shutdown.isTriggered = result at hfst
    obtain ⟨triggered, shutdown⟩ := result
    obtain rfl : triggered = true := hfst
    rfl
  · exact absurd requested (h.silent deadline hsleeping).1

/-- Without a request it is the clock that decides, whether or not the last trigger is gone. -/
theorem Sound.look_of_not_isRequested (h : Sound past s) (w : s.Waits deadline)
    (quiet : ¬s.shutdown.isRequested) :
    ∃ activity, (activity = .waiting deadline ∨ activity = .sleeping deadline ∧ s.triggers = 0) ∧
      s.look = some ({ s with activity }.expire deadline) := by
  rcases w with hwaiting | hsleeping
  · by_cases hlast : s.triggers = 0
    · refine ⟨.sleeping deadline, .inr ⟨rfl, hlast⟩, ?_⟩
      simp only [look, hwaiting, Shutdown.isTriggered_of_not_isRequested quiet, if_pos hlast]
    · refine ⟨.waiting deadline, .inl rfl, ?_⟩
      simp only [look, hwaiting, Shutdown.isTriggered_of_not_isRequested quiet, if_neg hlast]
      rw [← hwaiting]
  · refine ⟨.sleeping deadline, .inr ⟨rfl, (h.silent deadline hsleeping).2⟩, ?_⟩
    simp only [look, hsleeping]
    rw [← hsleeping]

/-- Without a request a wait ends once its moment has come. -/
theorem Sound.look_of_le (h : Sound past s) (w : s.Waits deadline) (quiet : ¬s.shutdown.isRequested)
    (hnow : deadline.nanoseconds ≤ s.now.nanoseconds) :
    s.look = some ({ s with activity := .free }, some false) := by
  obtain ⟨activity, -, hlook⟩ := h.look_of_not_isRequested w quiet
  rw [hlook, expire, if_pos hnow]

/-- Without a request a wait goes on until its moment. -/
theorem Sound.look_of_lt (h : Sound past s) (w : s.Waits deadline) (quiet : ¬s.shutdown.isRequested)
    (hnow : s.now.nanoseconds < deadline.nanoseconds) :
    ∃ activity, (activity = .waiting deadline ∨ activity = .sleeping deadline ∧ s.triggers = 0) ∧
      s.look = some ({ s with activity }, none) := by
  obtain ⟨activity, hactivity, hlook⟩ := h.look_of_not_isRequested w quiet
  refine ⟨activity, hactivity, ?_⟩
  rw [hlook, expire, if_neg (Nat.not_le_of_lt hnow)]

/-! ## What each action keeps -/

/-- An answer after the actions of `past` tells whether there has been a request. -/
def Truthful (past : List Action) (answer : Option Bool) : Prop :=
  ∀ b, answer = some b → (b = true ↔ .trigger ∈ past)

theorem truthful_none (past : List Action) : Truthful past none := nofun

theorem truthful_some {b : Bool} (h : b = true ↔ .trigger ∈ past) : Truthful past (some b) := by
  rintro b' heq
  cases heq
  exact h

/-- An action that makes no request leaves the past as it is. -/
theorem trigger_mem_append {action : Action} (h : action ≠ .trigger) :
    .trigger ∈ past ++ [action] ↔ .trigger ∈ past := by
  simp [h.symm]

/-- An action that makes no request and touches none. -/
theorem Sound.unrequested (h : Sound past s) {action : Action} (hne : action ≠ .trigger)
    (hshutdown : s'.shutdown = s.shutdown)
    (listens : ∀ d, s'.Waits d → s.shutdown.listening = true)
    (silent : ∀ d, s'.activity = .sleeping d → ¬s.shutdown.isRequested ∧ s'.triggers = 0) :
    Sound (past ++ [action]) s' := by
  refine ⟨fun hl => ?_, fun d hd => ?_, fun d hd => ?_⟩
  · rw [hshutdown] at hl ⊢
    exact (trigger_mem_append hne).trans (h.heard hl)
  · rw [hshutdown]
    exact listens d hd
  · rw [hshutdown]
    exact silent d hd

/-- The listener is told, and has nothing else to do. -/
theorem Sound.told (h : Sound past s) {action : Action} (hne : action ≠ .trigger)
    (hl : s.shutdown.listening = true) :
    Sound (past ++ [action]) { s with shutdown := s.shutdown.isTriggered.2, activity := .free } := by
  refine ⟨fun _ => ?_, fun d hd => ?_, nofun⟩
  · exact (trigger_mem_append hne).trans
      ((h.heard hl).trans (Shutdown.isRequested_isTriggered _).symm)
  · exact (Shutdown.listening_isTriggered _).trans hl

/-- Looking keeps what holds. -/
theorem Sound.performs_look (h : Sound past s) {answer : Option Bool}
    (hlook : s.look = some (s', answer)) :
    Sound (past ++ [.look]) s' ∧ Truthful past answer := by
  obtain ⟨deadline, w⟩ : ∃ deadline, s.Waits deadline := by
    cases hactivity : s.activity with
    | free =>
      rw [look, hactivity] at hlook
      cases hlook
    | waiting deadline => exact ⟨deadline, .inl hactivity⟩
    | sleeping deadline => exact ⟨deadline, .inr hactivity⟩
  have hiff := h.requested_iff w
  have hl := h.listens deadline w
  by_cases hreq : s.shutdown.isRequested
  · rw [h.look_of_isRequested w hreq] at hlook
    cases hlook
    exact ⟨h.told nofun hl, truthful_some (iff_of_true rfl (hiff.2 hreq))⟩
  · rcases Nat.lt_or_ge s.now.nanoseconds deadline.nanoseconds with hnow | hnow
    · obtain ⟨activity, hactivity, hstays⟩ := h.look_of_lt w hreq hnow
      rw [hstays] at hlook
      cases hlook
      refine ⟨h.unrequested nofun rfl (fun _ _ => hl) fun d hd => ?_, truthful_none past⟩
      rcases hactivity with hwaiting | ⟨-, hlast⟩
      · exact absurd (hwaiting.symm.trans hd) nofun
      · exact ⟨hreq, hlast⟩
    · rw [h.look_of_le w hreq hnow] at hlook
      cases hlook
      exact ⟨h.unrequested nofun rfl (fun _ _ => hl) nofun,
        truthful_some (iff_of_false Bool.false_ne_true (mt hiff.1 hreq))⟩

/-- Where there is a trigger left, the listener does not sleep. -/
theorem Sound.not_sleeping (h : Sound past s) (live : 0 < s.triggers) (d : Duration) :
    s.activity ≠ .sleeping d :=
  fun hd => Nat.pos_iff_ne_zero.1 live (h.silent d hd).2

/-- Every action keeps what holds, and its answer is true just if there has been a request. -/
theorem Sound.performs (h : Sound past s) {action : Action} {answer : Option Bool}
    (hperform : s.perform action = some (s', answer)) :
    Sound (past ++ [action]) s' ∧ Truthful past answer := by
  cases action with
  | trigger =>
    rw [perform] at hperform
    split_ifs at hperform with live
    cases hperform
    refine ⟨⟨fun hl => ?_, fun d hd => ?_, fun d hd => ?_⟩, truthful_none past⟩
    · rw [Shutdown.listening_trigger] at hl
      exact iff_of_true (by simp) (Shutdown.isRequested_trigger hl)
    · exact (Shutdown.listening_trigger _).trans (h.listens d hd)
    · exact absurd hd (h.not_sleeping live d)
  | clone | drop =>
    rw [perform] at hperform
    split_ifs at hperform with live
    cases hperform
    exact ⟨h.unrequested nofun rfl h.listens fun d hd => absurd hd (h.not_sleeping live d),
      truthful_none past⟩
  | ask =>
    rw [perform] at hperform
    split_ifs at hperform with hfree
    obtain ⟨hl, hactivity⟩ := isFree_iff.1 hfree
    simp only [Option.some.injEq, Prod.mk.injEq] at hperform
    obtain ⟨rfl, rfl⟩ := hperform
    rw [hactivity]
    exact ⟨h.told nofun hl, truthful_some ((Shutdown.isTriggered_fst _).trans (h.heard hl).symm)⟩
  | wait deadline =>
    rw [perform] at hperform
    split_ifs at hperform with hfree
    cases hperform
    have hl := (isFree_iff.1 hfree).1
    exact ⟨h.unrequested nofun rfl (fun _ _ => hl) nofun, truthful_none past⟩
  | look => exact h.performs_look hperform
  | close =>
    rw [perform] at hperform
    split_ifs at hperform with hfree
    cases hperform
    have hactivity := (isFree_iff.1 hfree).2
    refine ⟨⟨nofun, fun d hd => ?_, fun d hd => ?_⟩, truthful_none past⟩
    · rcases hd with hd | hd <;> exact absurd (hactivity.symm.trans hd) nofun
    · exact absurd (hactivity.symm.trans hd) nofun
  | pass time =>
    cases hperform
    exact ⟨h.unrequested nofun rfl h.listens h.silent, truthful_none past⟩

/-! ## Any actions in any order -/

theorem run_cons_iff {action : Action} {rest : List Action} {answers : List Bool} :
    s.run (action :: rest) = some (s', answers) ↔
      ∃ next answer more, s.perform action = some (next, answer) ∧
        next.run rest = some (s', more) ∧ answers = answer.toList ++ more := by
  simp only [run, bind, Option.bind_eq_some_iff, Prod.exists, pure, Option.some.injEq, Prod.mk.injEq]
  constructor
  · rintro ⟨next, answer, hperform, last, more, hrun, rfl, rfl⟩
    exact ⟨next, answer, more, hperform, hrun, rfl⟩
  · rintro ⟨next, answer, more, hperform, hrun, rfl⟩
    exact ⟨next, answer, hperform, s', more, hrun, rfl, rfl⟩

/-- Actions keep what holds.  Each answer is followed by its like if it is true, and is true if there
was a request before the first of the actions. -/
theorem Sound.runs {actions : List Action} {answers : List Bool} (h : Sound past s)
    (hrun : s.run actions = some (s', answers)) :
    Sound (past ++ actions) s' ∧ answers.Pairwise (fun b b' => b = true → b' = true) ∧
      (.trigger ∈ past → ∀ b ∈ answers, b = true) := by
  induction actions generalizing past s answers with
  | nil =>
    cases hrun
    rw [List.append_nil]
    exact ⟨h, .nil, fun _ => nofun⟩
  | cons action rest ih =>
    obtain ⟨next, answer, more, hperform, hrest, rfl⟩ := run_cons_iff.1 hrun
    obtain ⟨hnext, htruthful⟩ := h.performs hperform
    obtain ⟨hsound, hlasting, hknown⟩ := ih hnext hrest
    rw [List.append_assoc, List.singleton_append] at hsound
    refine ⟨hsound, List.pairwise_append.2 ⟨?_, hlasting, fun b hb b' hb' htrue => ?_⟩,
      fun hpast b hb => ?_⟩
    · cases answer <;> simp
    · have hpast := (htruthful b (Option.mem_toList.1 hb)).1 htrue
      exact hknown (List.mem_append_left _ hpast) b' hb'
    · rcases List.mem_append.1 hb with hb | hb
      · exact (htruthful b (Option.mem_toList.1 hb)).2 hpast
      · exact hknown (List.mem_append_left _ hpast) b hb

/-! ## A wait while others act -/

theorem Waits.not_isFree (w : s.Waits deadline) : ¬s.isFree = true := by
  intro hfree
  have hactivity := (isFree_iff.1 hfree).2
  rcases w with hw | hw <;> exact absurd (hactivity.symm.trans hw) nofun

/-- While the listener waits, only looking gives an answer. -/
theorem Waits.eq_look (w : s.Waits deadline) {action : Action} {b : Bool}
    (h : s.perform action = some (s', some b)) : action = .look := by
  cases action with
  | look => rfl
  | ask | wait _ | close =>
    rw [perform, if_neg w.not_isFree] at h
    cases h
  | trigger | clone | drop =>
    rw [perform] at h
    split_ifs at h
    cases h
  | pass _ => cases h

/-- A wait goes on, unless there is an answer. -/
theorem Sound.waits_performs (h : Sound past s) (w : s.Waits deadline) {action : Action}
    (hperform : s.perform action = some (s', none)) : s'.Waits deadline := by
  cases action with
  | ask | wait _ | close =>
    rw [perform, if_neg w.not_isFree] at hperform
    cases hperform
  | trigger | clone | drop =>
    rw [perform] at hperform
    split_ifs at hperform
    cases hperform
    exact w
  | pass _ =>
    cases hperform
    exact w
  | look =>
    rw [perform] at hperform
    by_cases hreq : s.shutdown.isRequested
    · rw [h.look_of_isRequested w hreq] at hperform
      cases hperform
    · rcases Nat.lt_or_ge s.now.nanoseconds deadline.nanoseconds with hnow | hnow
      · obtain ⟨activity, hactivity, hstays⟩ := h.look_of_lt w hreq hnow
        rw [hstays] at hperform
        cases hperform
        exact hactivity.imp_right And.left
      · rw [h.look_of_le w hreq hnow] at hperform
        cases hperform

theorem Sound.waits_runs {during : List Action} (h : Sound past s) (w : s.Waits deadline)
    (hrun : s.run during = some (s', [])) : Sound (past ++ during) s' ∧ s'.Waits deadline := by
  refine ⟨(h.runs hrun).1, ?_⟩
  induction during generalizing past s with
  | nil =>
    cases hrun
    exact w
  | cons action rest ih =>
    obtain ⟨next, answer, more, hperform, hrest, hnone⟩ := run_cons_iff.1 hrun
    cases answer with
    | some _ => cases hnone
    | none =>
      obtain rfl : [] = more := hnone
      exact ih (h.performs hperform).1 (h.waits_performs w hperform) hrest

/-- How a wait goes after the actions of `past`: a request ends it at the next look, even if its moment
has come; otherwise it ends at its moment and no earlier. -/
structure WaitsOut (past : List Action) (deadline : Duration) (s : Exchange) : Prop where
  seen : .trigger ∈ past → ∃ s', s.perform .look = some (s', some true)
  ended : .trigger ∉ past → deadline.nanoseconds ≤ s.now.nanoseconds →
    ∃ s', s.perform .look = some (s', some false)
  goesOn : .trigger ∉ past → s.now.nanoseconds < deadline.nanoseconds →
    ∃ s', s.perform .look = some (s', none)
  byLook : ∀ action s' b, s.perform action = some (s', some b) → action = .look

theorem Sound.waitsOut (h : Sound past s) (w : s.Waits deadline) : s.WaitsOut past deadline := by
  have hiff := h.requested_iff w
  refine ⟨fun hpast => ?_, fun hpast hnow => ?_, fun hpast hnow => ?_, fun _ _ _ => w.eq_look⟩
  · exact ⟨_, h.look_of_isRequested w (hiff.1 hpast)⟩
  · exact ⟨_, h.look_of_le w (mt hiff.2 hpast) hnow⟩
  · obtain ⟨activity, -, hstays⟩ := h.look_of_lt w (mt hiff.2 hpast) hnow
    exact ⟨_, hstays⟩

/-- An action without an answer. -/
theorem run_cons_of_silent {action : Action} (h : s.perform action = some (s', none))
    (rest : List Action) : s.run (action :: rest) = s'.run rest := by
  rw [run, h]
  simp only [bind, Option.bind]
  cases s'.run rest <;> rfl

/-- Any number of requests, while there is a trigger. -/
theorem run_triggers (live : 0 < s.triggers) (n : Nat) (rest : List Action) :
    s.run (.replicate n .trigger ++ rest) =
      { s with shutdown := Shutdown.trigger^[n] s.shutdown }.run rest := by
  induction n generalizing s with
  | zero => rfl
  | succ n ih =>
    have hperform : s.perform .trigger = some ({ s with shutdown := s.shutdown.trigger }, none) :=
      if_pos live
    rw [List.replicate_succ, List.cons_append, run_cons_of_silent hperform, Function.iterate_succ_apply]
    exact ih live

/-- A whole wait, during which some requests are made, comes to what `Shutdown.wait` says of it. -/
theorem Sound.run_wait (h : Sound past s) (hfree : s.isFree = true) (live : 0 < s.triggers) (n : Nat)
    (deadline : Duration) :
    s.run (.wait deadline :: (.replicate n .trigger ++ [.pass deadline, .look])) =
      some ({ s with shutdown := (s.shutdown.wait n).2, now := s.now + deadline },
        [(s.shutdown.wait n).1]) := by
  obtain ⟨hl, hactivity⟩ := isFree_iff.1 hfree
  have hperform : s.perform (.wait deadline) = some ({ s with activity := .waiting deadline }, none) :=
    if_pos hfree
  have hwait (rest : List Action) : s.run (.wait deadline :: (.replicate n .trigger ++ rest)) =
      Exchange.run ⟨Shutdown.trigger^[n] s.shutdown, s.triggers, .waiting deadline, s.now⟩ rest := by
    rw [run_cons_of_silent hperform]
    exact run_triggers (s := { s with activity := .waiting deadline }) live n rest
  obtain ⟨hsound, -, -⟩ := h.runs (hwait [.pass deadline])
  rw [hwait, Shutdown.wait_eq hl]
  by_cases hreq : (Shutdown.trigger^[n] s.shutdown).isRequested
  · have hlook := hsound.look_of_isRequested (.inl rfl) hreq
    simp only [run, perform, hlook, (Shutdown.isTriggered_fst _).2 hreq, bind, Option.bind, pure,
      Option.toList, hactivity, List.append_nil, List.nil_append]
  · have hlook := hsound.look_of_le (.inl rfl) hreq (Nat.le_add_left _ _)
    simp only [run, perform, hlook, Shutdown.isTriggered_of_not_isRequested hreq, bind, Option.bind,
      pure, Option.toList, hactivity, List.append_nil, List.nil_append]

/-- How requests are noticed after the actions of `past`, which gave some answers. -/
structure Latched (past : List Action) (answers : List Bool) (s : Exchange) : Prop where
  /-- Who asks is told whether there has been a request. -/
  asked : s.isFree = true →
    ∃ s' b, s.perform .ask = some (s', some b) ∧ (b = true ↔ .trigger ∈ past)
  /-- Who waits is told of all requests before the wait and during it. -/
  waited : ∀ deadline during s', s.run (.wait deadline :: during) = some (s', []) →
    s'.WaitsOut (past ++ during) deadline
  /-- What has been noticed stays noticed. -/
  lasting : answers.Pairwise fun b b' => b = true → b' = true
  /-- Where nobody listens, requests change nothing. -/
  deaf : s.shutdown.listening = false → 0 < s.triggers → s.perform .trigger = some (s, none)

theorem Sound.waited (h : Sound past s) (deadline : Duration) (during : List Action)
    (hrun : s.run (.wait deadline :: during) = some (s', [])) :
    s'.WaitsOut (past ++ during) deadline := by
  obtain ⟨next, answer, more, hperform, hrest, hnone⟩ := run_cons_iff.1 hrun
  have hsound := (h.performs hperform).1
  rw [perform] at hperform
  split_ifs at hperform with hfree
  cases hperform
  obtain rfl : [] = more := hnone
  obtain ⟨hsound', w⟩ := hsound.waits_runs (.inl rfl) hrest
  have hsame : .trigger ∈ past ++ [.wait deadline] ++ during ↔ .trigger ∈ past ++ during := by simp
  obtain ⟨seen, ended, goesOn, byLook⟩ := hsound'.waitsOut w
  rw [hsame] at seen ended goesOn
  exact ⟨seen, ended, goesOn, byLook⟩

/-- Whatever triggers and their listener do, in any order: no request is lost, none is made up, and once
there is one it is known for good. -/
theorem requests_are_latched {now : Duration} {past : List Action} {s : Exchange} {answers : List Bool}
    (h : (opening now).run past = some (s, answers)) : s.Latched past answers := by
  obtain ⟨hsound, hlasting, -⟩ := (sound_opening now).runs h
  rw [List.nil_append] at hsound
  refine ⟨fun hfree => ?_, fun deadline during s' => hsound.waited deadline during, hlasting,
    fun hdeaf live => ?_⟩
  · obtain ⟨hl, -⟩ := isFree_iff.1 hfree
    refine ⟨_, s.shutdown.isTriggered.1, by rw [perform, if_pos hfree], ?_⟩
    exact (Shutdown.isTriggered_fst _).trans (hsound.heard hl).symm
  · rw [perform, if_pos live, Shutdown.trigger_of_not_listening hdeaf]

/-- Two requests, the second by a copy of the trigger.  Both triggers are given up before anyone asks. -/
def bothGone : List Action := [.clone, .trigger, .drop, .trigger, .drop, .ask, .wait ⟨5⟩, .look]

theorem requests_are_latched_bothGone :
    (opening ⟨7⟩).run bothGone = some (⟨⟨1, true, true⟩, 0, .free, ⟨7⟩⟩, [true, true]) ∧
    (Exchange.mk ⟨1, true, true⟩ 0 .free ⟨7⟩).Latched bothGone [true, true] := by
  have hrun : (opening ⟨7⟩).run bothGone = some (⟨⟨1, true, true⟩, 0, .free, ⟨7⟩⟩, [true, true]) := rfl
  exact ⟨hrun, requests_are_latched hrun⟩

end Exchange

end FrameDetect.Run
