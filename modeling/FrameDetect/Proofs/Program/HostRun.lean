import FrameDetect.Machine
import FrameDetect.Proofs.Program.HostCycle
import FrameDetect.Proofs.Run.Counts

/-!
# Runs of a host

After each cycle of a run the frames, the runs of the model and the counts of the summary agree.  So a
run that nobody interrupts ends when the frames or the cycles are used up, and all that it leaves can be
told from the two limits, the interval of failures and the rows that are left of the tensor.  The same
numbers tell whether it gets so far: no frame may be too long for a block of memory, and no count too great for
a word.
-/

namespace FrameDetect.Program

open FrameDetect.Cycle (Detector Outcome)
open FrameDetect.Detect (Detection)
open FrameDetect.Publish (Notifier Overlay)
open FrameDetect.Run (Listener Periodic Shutdown Summary)
open FrameDetect.Run.Periodic (Result State)
open FrameDetect.Tensor (View fourRowsView)
open FrameDetect.Video (SyntheticSettings)

variable {τ : Type} {p : Periodic} {settings : SyntheticSettings} {limit : UInt64}
  {every : Option UInt64} {rows n : Nat} {summary : Summary} {feed : Feed}

/-! ## Counts of a run -/

/-- The cycles of a run: one for each frame, unless enough are done before. -/
def totalCycles (p : Periodic) (limit : UInt64) : Nat :=
  match p.maxCycles with
  | some most => min limit.toNat most.toNat
  | none => limit.toNat

theorem totalCycles_le (p : Periodic) (limit : UInt64) : totalCycles p limit ≤ limit.toNat := by
  unfold totalCycles
  split
  next most hmost => exact Nat.min_le_left _ _
  next => exact Nat.le_refl _

theorem totalCycles_le_most {most : UInt64} (h : p.maxCycles = some most) : totalCycles p limit ≤ most.toNat := by
  rw [totalCycles, h]
  exact Nat.min_le_right _ _

/-- Whether words can hold the counts of a run: that of all detections, and the number of a cycle after all frames,
where no limit ends the run before. -/
def Countable (p : Periodic) (limit : UInt64) (every : Option UInt64) (rows : Nat) : Prop :=
  successes every (totalCycles p limit) * rows < 2 ^ 64 ∧ (p.maxCycles = none → limit.toNat + 1 < 2 ^ 64)

instance (p : Periodic) (limit : UInt64) (every : Option UInt64) (rows : Nat) :
    Decidable (Countable p limit every rows) :=
  inferInstanceAs (Decidable (_ ∧ _))

/-- A summary after so many cycles, none of which ended the run. -/
structure Counted (every : Option UInt64) (rows n : Nat) (summary : Summary) : Prop where
  skipped : summary.skipped.toNat = failures every n
  published : summary.published.toNat = successes every n
  detections : summary.detections.toNat = successes every n * rows
  notLost : summary.sourceLost = false
  notInterrupted : summary.interrupted = false

theorem counted_empty : Counted every rows 0 .empty := by
  have hnone : successes every 0 = 0 := Nat.zero_sub _
  refine ⟨(failures_zero every).symm, hnone.symm, ?_, rfl, rfl⟩
  rw [hnone, Nat.zero_mul]
  rfl

theorem Counted.cycles (h : Counted every rows n summary) :
    summary.published.toNat + summary.skipped.toNat = n := by
  rw [h.published, h.skipped]
  exact Nat.sub_add_cancel (failures_le every n)

/-- The cycles that are done can be counted, and are within the limit. -/
theorem Counted.within (h : Counted every rows n summary) (hle : n ≤ totalCycles p limit) : p.Within summary := by
  have hword : n < 2 ^ 64 := (hle.trans (totalCycles_le p limit)).trans_lt limit.toNat_lt
  have hcount : (UInt64.ofNat n).toNat = n := UInt64.toNat_ofNat_of_lt' hword
  refine ⟨.ofNat n, Summary.cycles_eq_ok_iff.2 (hcount.trans h.cycles.symm), fun most hmost => ?_⟩
  rw [UInt64.le_iff_toNat_le, hcount]
  exact hle.trans (totalCycles_le_most hmost)

/-- One more cycle is counted at its turn. -/
theorem Counted.record {detections : List Detection} {outcome : Outcome} {summary' : Summary}
    (h : Counted every detections.length n summary) (hfew : detections.length < 2 ^ 64)
    (hturn : Turn every detections (n + 1) outcome) (hrecord : summary.record outcome = .ok summary') :
    Counted every detections.length (n + 1) summary' := by
  obtain ⟨hskipped, hpublished, hdetections, hlost, hinterrupted⟩ := h
  cases hturn with
  | fails reason hfails =>
    obtain ⟨hcount, hrest⟩ := Summary.record_skipped hrecord
    have hsame : successes every (n + 1) = successes every n := by rw [successes_succ, if_pos hfails, Nat.add_zero]
    rw [hrest]
    refine ⟨?_, hsame ▸ hpublished, hsame ▸ hdetections, hlost, hinterrupted⟩
    rw [failures_succ, if_pos hfails, ← hskipped, ← hcount]
  | publishes hpasses =>
    obtain ⟨hcount, hfound, hrest⟩ := Summary.record_published hrecord
    have hmore : successes every (n + 1) = successes every n + 1 := by rw [successes_succ, if_neg hpasses]
    rw [UInt64.toNat_ofNat_of_lt' hfew] at hfound
    rw [hrest]
    refine ⟨?_, ?_, ?_, hlost, hinterrupted⟩
    · rw [failures_succ, if_neg hpasses]
      exact hskipped
    · rw [hmore, ← hpublished, ← hcount]
    · rw [hmore, Nat.succ_mul, ← hdetections, ← hfound]

/-- What a run of a host leaves when nobody interrupts it. -/
structure ClosedForm (p : Periodic) (limit : UInt64) (every : Option UInt64) (rows : Nat)
    (summary : Summary) (feed : Feed) : Prop where
  cycles : ∃ cycles, summary.cycles = .ok cycles ∧ cycles.toNat = totalCycles p limit
  skipped : summary.skipped.toNat = failures every (totalCycles p limit)
  published : summary.published.toNat = totalCycles p limit - summary.skipped.toNat
  detections : summary.detections.toNat = summary.published.toNat * rows
  /-- The source is lost unless enough cycles are done before. -/
  sourceLost : summary.sourceLost = true ↔ ∀ most, p.maxCycles = some most → limit < most
  notInterrupted : summary.interrupted = false
  runs : feed.model.runs.toNat = totalCycles p limit
  outstanding : feed.source.outstanding.toNat = 0

variable {tensor : ByteArray} {cycles number : UInt64}

/-- The counts of a summary after all cycles are those of the closed form. -/
theorem Counted.closedForm (h : Counted every rows (totalCycles p limit) summary)
    (hfeed : Feed.After settings limit tensor every (totalCycles p limit) (totalCycles p limit) 0 feed)
    {lost : Bool} (hlost : lost = true ↔ ∀ most, p.maxCycles = some most → limit < most) :
    ClosedForm p limit every rows { summary with sourceLost := lost } feed := by
  obtain ⟨cycles, hcycles, -⟩ := h.within (p := p) (Nat.le_refl _)
  refine ⟨⟨cycles, hcycles, ?_⟩, h.skipped, ?_, ?_, hlost, h.notInterrupted, hfeed.runs, hfeed.outstanding⟩
  · rw [Summary.cycles_eq_ok_iff.1 hcycles, h.cycles]
  · rw [h.published, h.skipped]
    rfl
  · rw [h.detections, h.published]

/-- A run ends in its closed form when enough cycles are done. -/
theorem Counted.complete (h : Counted every rows n summary)
    (hfeed : Feed.After settings limit tensor every n n 0 feed) (hle : n ≤ totalCycles p limit)
    (hturn : p.turn summary = .ok (.complete cycles)) :
    Countable p limit every rows ∧ ClosedForm p limit every rows summary feed := by
  obtain ⟨hcycles, hmax⟩ := Periodic.turn_complete (h.within hle) hturn
  have hcount : cycles.toNat = n := (Summary.cycles_eq_ok_iff.1 hcycles).trans h.cycles
  obtain rfl : n = totalCycles p limit := Nat.le_antisymm hle (hcount ▸ totalCycles_le_most hmax)
  refine ⟨⟨?_, fun hnone => ?_⟩, ?_⟩
  · rw [← h.detections]
    exact summary.detections.toNat_lt
  · rw [hmax] at hnone
    cases hnone
  · have hfew : ¬∀ most, p.maxCycles = some most → limit < most := by
      intro hmore
      have hlt := UInt64.lt_iff_toNat_lt.1 (hmore cycles hmax)
      rw [hcount] at hlt
      exact Nat.not_le_of_lt hlt (totalCycles_le p limit)
    exact h.closedForm hfeed (iff_of_false (by rw [h.notLost]; exact Bool.false_ne_true) hfew)

/-- A run ends in its closed form when the frames are used up. -/
theorem Counted.lost (h : Counted every rows limit.toNat summary)
    (hfeed : Feed.After settings limit tensor every limit.toNat limit.toNat 0 feed)
    (hle : limit.toNat ≤ totalCycles p limit) (hturn : p.turn summary = .ok (.cycle number)) :
    Countable p limit every rows ∧ ClosedForm p limit every rows { summary with sourceLost := true } feed := by
  obtain ⟨hnumber, hmost⟩ := Periodic.turn_cycle (h.within hle) hturn
  have htotal : limit.toNat = totalCycles p limit := Nat.le_antisymm hle (totalCycles_le p limit)
  rw [h.cycles] at hnumber
  rw [htotal] at h hfeed
  refine ⟨⟨?_, fun _ => hnumber ▸ number.toNat_lt⟩, h.closedForm hfeed (iff_of_true rfl fun most hmax => ?_)⟩
  · rw [← h.detections]
    exact summary.detections.toNat_lt
  · have hword := UInt64.le_iff_toNat_le.1 (hmost most hmax)
    exact UInt64.lt_iff_toNat_lt.2 (by omega)

/-- A run without a limit is broken off when all words have numbered a cycle. -/
theorem Counted.not_countable_of_turn {cause : Overflow} (h : Counted every rows n summary)
    (hle : n ≤ totalCycles p limit) (hturn : p.turn summary = .error cause) :
    cause = .sum ∧ ¬Countable p limit every rows := by
  obtain ⟨hcause, hmax, hcount⟩ := Periodic.turn_error (h.within hle) hturn
  refine ⟨hcause, fun ⟨_, hfits⟩ => ?_⟩
  have hlimit := hfits hmax
  have hall := hle.trans (totalCycles_le p limit)
  rw [h.cycles] at hcount
  omega

/-- A run is broken off when there are more detections than a word can count. -/
theorem Counted.not_countable_of_record {detections : List Detection} {outcome : Outcome} {cause : Overflow}
    (h : Counted every detections.length n summary) (hle : n + 1 ≤ totalCycles p limit)
    (hnumber : p.turn summary = .ok (.cycle number)) (hturn : Turn every detections (n + 1) outcome)
    (hrecord : summary.record outcome = .error cause) :
    cause = .sum ∧ ¬Countable p limit every detections.length := by
  obtain ⟨hcause, found, rfl, hlarge⟩ :=
    Periodic.record_error_of_turn (h.within ((Nat.le_succ n).trans hle)) hnumber hrecord
  refine ⟨hcause, fun ⟨hfits, _⟩ => ?_⟩
  cases hturn with
  | publishes hpasses =>
    have hmore : successes every (n + 1) = successes every n + 1 := by rw [successes_succ, if_neg hpasses]
    have hall := Nat.mul_le_mul_right detections.length (successes_mono every hle)
    rw [hmore, Nat.succ_mul, ← h.detections] at hall
    exact absurd (hlarge.trans hall) (Nat.not_le_of_lt hfits)

/-- Another cycle is within the limits if neither is reached. -/
theorem Counted.succ_le_totalCycles (h : Counted every rows n summary) (hle : n ≤ totalCycles p limit)
    (hturn : p.turn summary = .ok (.cycle number)) (hlt : n < limit.toNat) : n + 1 ≤ totalCycles p limit := by
  obtain ⟨hnumber, hmost⟩ := Periodic.turn_cycle (h.within hle) hturn
  rw [h.cycles] at hnumber
  unfold totalCycles
  split
  next most hmax =>
    have hword := UInt64.le_iff_toNat_le.1 (hmost most hmax)
    omega
  next => exact hlt

/-! ## Steps -/

/-- A listener that hears no request. -/
structure Undisturbed (listener : Listener (HostT (StateM τ))) : Prop where
  isTriggered : ∀ feed, Yields listener.isTriggered feed fun heard feed' =>
    heard = false ∧ feed' = feed
  waitUntil : ∀ deadline feed, Yields (listener.waitUntil deadline) feed fun heard feed' =>
    heard = false ∧ feed' = feed

/-- A listener in whose place nobody makes a request. -/
def silence : Listener (HostT (StateM τ)) where
  isTriggered := return Shutdown.quiet.isTriggered.1
  waitUntil _ := return (Shutdown.quiet.wait 0).1

theorem undisturbed_silence : Undisturbed (silence : Listener (HostT (StateM τ))) :=
  ⟨fun _ => yields_pure ⟨rfl, rfl⟩, fun _ _ => yields_pure ⟨rfl, rfl⟩⟩

variable {d : Detector} {v : View}

/-- A run of a host after so many cycles. -/
structure Midway (p : Periodic) (settings : SyntheticSettings) (limit : UInt64) (every : Option UInt64)
    (d : Detector) (v : View) (n : Nat) (st : State) (feed : Feed) : Prop where
  detector : d.Continues st.detector
  counted : Counted every (v.detections d.thresholds d.tieBreak).length n st.summary
  feed : Feed.After settings limit v.bytes every n n 0 feed
  limit : n ≤ totalCycles p limit

variable [MonadLog (StateM τ)] [MonadClock (StateM τ)] {overlay : Overlay (HostT (StateM τ))}
  {notifier : Notifier (HostT (StateM τ))} {listener : Listener (HostT (StateM τ))} {st : State}

/-- The end of a run: in its closed form, if words can hold its counts. -/
def Concludes (p : Periodic) (limit : UInt64) (every : Option UInt64) (d : Detector) (v : View)
    (result : Result) (feed : Feed) : Prop :=
  (Countable p limit every (v.detections d.thresholds d.tieBreak).length ∧
    ∃ summary d', result = (.ok summary, d') ∧
      ClosedForm p limit every (v.detections d.thresholds d.tieBreak).length summary feed) ∨
  (¬Countable p limit every (v.detections d.thresholds d.tieBreak).length ∧
    ∃ d', result = (.error (.overflow .sum), d'))

/-- A step makes one more cycle or concludes the run. -/
theorem yields_step (hsinks : SparingSinks overlay notifier) (hquiet : Undisturbed listener)
    (hv : v.layout = d.layout) (hframes : Delivers settings limit)
    (hblock : totalCycles p limit ≠ 0 → frameBytes settings ≤ greatestBlock)
    (h : Midway p settings limit every d v n st feed) :
    Yields (p.step (Host.devicesWith overlay notifier) listener st) feed fun next feed' =>
      (∃ st', next = .inl st' ∧ Midway p settings limit every d v (n + 1) st' feed') ∨
        ∃ result, next = .inr result ∧ Concludes p limit every d v result feed' := by
  obtain ⟨hd, hcounted, hfeed, hle⟩ := h
  unfold Periodic.step
  refine (hquiet.isTriggered feed).bind ?_
  rintro _ _ ⟨rfl, rfl⟩
  simp only [Bool.false_eq_true, if_false]
  cases hnumber : p.turn st.summary with
  | error cause =>
    obtain ⟨rfl, huncountable⟩ := hcounted.not_countable_of_turn hle hnumber
    exact yields_pure (.inr ⟨_, rfl, .inr ⟨huncountable, st.detector, rfl⟩⟩)
  | ok turn =>
    cases turn with
    | complete cycles =>
      obtain ⟨hcountable, hclosed⟩ := hcounted.complete hfeed hle hnumber
      refine (spares_log _ _).bind fun _ => yields_pure ?_
      exact .inr ⟨_, rfl, .inl ⟨hcountable, st.summary, st.detector, rfl, hclosed⟩⟩
    | cycle number =>
      refine (spares_log _ _).bind fun _ => ?_
      -- There is a frame for the cycle unless the cycles that are done have taken all of them.
      rcases (hle.trans (totalCycles_le p limit)).lt_or_eq with hlt | rfl
      · have hmore := hcounted.succ_le_totalCycles hle hnumber hlt
        have hcycle := yields_run_of_lt hsinks hd.fitted (hv.trans hd.layout.symm) hfeed hframes
          (hblock (Nat.ne_zero_of_lt hmore)) hlt
        rw [hd.thresholds, hd.tieBreak] at hcycle
        refine hcycle.bind ?_
        rintro ⟨_, d'⟩ feed' ⟨hfeed', hd', outcome, rfl, hturn⟩
        dsimp only
        cases hrecord : st.summary.record outcome with
        | error cause =>
          obtain ⟨rfl, huncountable⟩ := hcounted.not_countable_of_record hmore hnumber hturn hrecord
          have hextend : st.summary.extend (.ok outcome) = .error (.overflow .sum) :=
            Summary.extend_eq_error_iff.2 (.inr ⟨outcome, .sum, rfl, hrecord, rfl⟩)
          rw [hextend]
          exact yields_pure (.inr ⟨_, rfl, .inr ⟨huncountable, d', rfl⟩⟩)
        | ok summary =>
          have hcounted' := hcounted.record (v.length_detections_lt d.thresholds d.tieBreak) hturn hrecord
          rw [Summary.extend_eq_ok_iff.2 ⟨outcome, rfl, hrecord⟩]
          dsimp only
          rw [if_neg (Bool.eq_false_iff.1 hcounted'.notLost)]
          refine spares_elapsed.bind fun now => ?_
          refine (hquiet.waitUntil _ feed').bind ?_
          rintro _ _ ⟨rfl, rfl⟩
          exact yields_pure (.inl ⟨_, rfl, hd.trans hd', hcounted', hfeed', hmore⟩)
      · obtain ⟨hcountable, hclosed⟩ := hcounted.lost hfeed hle hnumber
        refine (yields_run_of_eq _ hfeed).bind ?_
        rintro _ _ ⟨rfl, rfl⟩
        exact (spares_log _ _).bind fun _ => yields_pure
          (.inr ⟨_, rfl, .inl ⟨hcountable, _, st.detector, rfl, hclosed⟩⟩)

/-- With more steps than cycles that are left, a run concludes. -/
theorem yields_steps (hsinks : SparingSinks overlay notifier) (hquiet : Undisturbed listener)
    (hv : v.layout = d.layout) (hframes : Delivers settings limit)
    (hblock : totalCycles p limit ≠ 0 → frameBytes settings ≤ greatestBlock)
    (h : Midway p settings limit every d v n st feed) {fuel : Nat}
    (hfuel : totalCycles p limit < n + fuel) :
    Yields (p.steps (Host.devicesWith overlay notifier) listener st fuel) feed fun looped feed' =>
      ∃ result, looped = some result ∧ Concludes p limit every d v result feed' := by
  -- The induction is on the steps that are left; the cycles that are done grow with each of them.
  induction fuel generalizing n st feed with
  | zero => exact absurd h.limit (Nat.not_le_of_lt hfuel)
  | succ fuel ih =>
    unfold Periodic.steps
    refine (yields_step hsinks hquiet hv hframes hblock h).bind ?_
    rintro _ feed' (⟨st', rfl, hmidway⟩ | ⟨result, rfl, hconcludes⟩)
    · exact ih hmidway (by omega)
    · exact yields_pure ⟨result, rfl, hconcludes⟩

/-- The first cycle breaks a run off if no block of memory can hold a frame. -/
theorem breaks_step (hquiet : Undisturbed listener) (hframes : Delivers settings limit)
    (hlarge : greatestBlock < frameBytes settings) (htotal : totalCycles p limit ≠ 0) (hsummary : st.summary = .empty)
    (h : Feed.After settings limit v.bytes every 0 0 0 feed) :
    Breaks (p.step (Host.devicesWith overlay notifier) listener st) feed .capacity := by
  have hlt : 0 < limit.toNat := (Nat.pos_of_ne_zero htotal).trans_le (totalCycles_le p limit)
  have hwithin : p.Within st.summary := hsummary ▸ p.within_empty
  unfold Periodic.step
  refine (hquiet.isTriggered feed).breaks ?_
  rintro _ _ ⟨rfl, rfl⟩
  simp only [Bool.false_eq_true, if_false]
  cases hturn : p.turn st.summary with
  | error cause =>
    obtain ⟨-, -, hcount⟩ := Periodic.turn_error hwithin hturn
    rw [hsummary] at hcount
    cases hcount
  | ok turn =>
    cases turn with
    | complete cycles =>
      obtain ⟨hcycles, hmax⟩ := Periodic.turn_complete hwithin hturn
      rw [hsummary, Summary.cycles_eq_ok_iff] at hcycles
      exact absurd (Nat.le_zero.1 ((totalCycles_le_most hmax).trans_eq hcycles)) htotal
    | cycle number =>
      exact (spares_log _ _).breaks fun _ =>
        (breaks_run_of_large st.detector h hframes hlarge hlt).bind _

/-! ## Whole runs -/

theorem yields_start (hsinks : SparingSinks overlay notifier) (d : Detector) :
    Yields (p.start (Host.devicesWith overlay notifier) d) feed fun st feed' =>
      st.detector = d ∧ st.summary = .empty ∧ feed' = feed := by
  unfold Periodic.start
  refine (spares_log _ _).bind fun _ => ?_
  refine Spares.bind ?_ fun _ => spares_elapsed.bind fun now => yields_pure ⟨rfl, rfl, rfl⟩
  exact hsinks.declare.andThen fun declared => spares_report _ declared

omit [MonadClock (StateM τ)] in
/-- The end of a run leaves its result and its feed as they are. -/
theorem yields_finish (hsinks : SparingSinks overlay notifier) (result : Result) :
    Yields (Periodic.finish (Host.devicesWith overlay notifier) result) feed
      fun ended feed' => ended = result ∧ feed' = feed := by
  obtain ⟨fault | summary, d⟩ := result
  · cases fault with
    | overflow cause => exact yields_pure ⟨rfl, rfl⟩
    | _ => exact hsinks.undeclare.bind fun _ => yields_pure ⟨rfl, rfl⟩
  · refine hsinks.undeclare.bind fun _ => ?_
    exact (spares_log _ _).bind fun _ => yields_pure ⟨rfl, rfl⟩

/-- A run of a host concludes, if a block of memory can hold its frames or it has none. -/
theorem yields_runFor (hd : d.Reachable) (hv : v.layout = d.layout) (hframes : Delivers settings limit)
    (hblock : totalCycles p limit ≠ 0 → frameBytes settings ≤ greatestBlock)
    (hsinks : SparingSinks overlay notifier) (hquiet : Undisturbed listener)
    (hn : totalCycles p limit < n) (h : Feed.After settings limit v.bytes every 0 0 0 feed) :
    Yields (p.runFor n (Host.devicesWith overlay notifier) listener d) feed fun ended feed' =>
      ∃ result, ended = some result ∧ Concludes p limit every d v result feed' := by
  unfold Periodic.runFor
  refine (yields_start hsinks d).bind ?_
  rintro st _ ⟨hdetector, hsummary, rfl⟩
  have hmidway : Midway p settings limit every d v 0 st _ :=
    ⟨hdetector ▸ hd.fitted.continues, hsummary ▸ counted_empty, h, Nat.zero_le _⟩
  refine (yields_steps hsinks hquiet hv hframes hblock hmidway (by omega)).bind ?_
  rintro _ feed' ⟨result, rfl, hconcludes⟩
  refine (yields_finish hsinks result).bind ?_
  rintro _ _ ⟨rfl, rfl⟩
  exact yields_pure ⟨_, rfl, hconcludes⟩

/-- A run of a host is broken off, if no block of memory can hold its frames. -/
theorem breaks_runFor (hframes : Delivers settings limit) (hlarge : greatestBlock < frameBytes settings)
    (htotal : totalCycles p limit ≠ 0) (hsinks : SparingSinks overlay notifier) (hquiet : Undisturbed listener)
    (d : Detector) (hn : totalCycles p limit < n) (h : Feed.After settings limit v.bytes every 0 0 0 feed) :
    Breaks (p.runFor n (Host.devicesWith overlay notifier) listener d) feed .capacity := by
  obtain ⟨fuel, rfl⟩ := Nat.exists_eq_add_of_lt (Nat.zero_lt_of_lt hn)
  unfold Periodic.runFor
  refine (yields_start hsinks d).breaks ?_
  rintro st _ ⟨-, hsummary, rfl⟩
  rw [Nat.zero_add, Periodic.steps]
  exact ((breaks_step hquiet hframes hlarge htotal hsummary h).bind _).bind _

/-- A run of a host that nobody interrupts ends, once it may take more steps than it has cycles, and it
leaves the closed form of its counts: whatever the sinks do, the log and the clocks.  It is broken off if there is a
frame that no block of memory can hold, or a count that no word can hold. -/
theorem host_run_closed_form (hd : d.Reachable) (hv : v.layout = d.layout)
    (hframes : Delivers settings limit) (hevery : every ≠ some 0)
    (hsinks : SparingSinks overlay notifier) (hquiet : Undisturbed listener) (p : Periodic) {n : Nat}
    (hn : totalCycles p limit < n) {host : Host} (hsource : host.source = .ofSettings settings)
    (hmodel : host.model = .ofTensor v.bytes every) (memory : τ) :
    let ended := ((p.runFor n (Host.devicesWith overlay notifier) listener d).runOn host memory).1
    let rows := (v.winners d.thresholds d.tieBreak).length
    if totalCycles p limit ≠ 0 ∧ greatestBlock < frameBytes settings then ended = .error .capacity
    else if Countable p limit every rows then
      ∃ summary d' host', ended = .ok (some (.ok summary, d'), host') ∧
        ClosedForm p limit every rows summary host'.feed
    else ∃ d' host', ended = .ok (some (.error (.overflow .sum), d'), host') := by
  intro ended rows
  have hrows : (v.detections d.thresholds d.tieBreak).length = rows := List.length_map _
  have hstart : Feed.After settings limit v.bytes every 0 0 0 host.feed := by
    rw [Host.feed, hsource, hmodel]
    exact Feed.after_start hframes hevery
  split
  next hbroken => exact breaks_runFor hframes hbroken.2 hbroken.1 hsinks hquiet d hn hstart host memory rfl
  next hfits =>
    have hblock (htotal : totalCycles p limit ≠ 0) : frameBytes settings ≤ greatestBlock :=
      Nat.le_of_not_lt fun hlarge => hfits ⟨htotal, hlarge⟩
    obtain ⟨_, host', hended, result, rfl, hconcludes⟩ :=
      yields_runFor hd hv hframes hblock hsinks hquiet hn hstart host memory rfl
    rw [Concludes, hrows] at hconcludes
    obtain ⟨hcountable, summary, d', rfl, hclosed⟩ | ⟨huncountable, d', rfl⟩ := hconcludes
    · rw [if_pos hcountable]
      exact ⟨summary, d', host', hended, hclosed⟩
    · rw [if_neg huncountable]
      exact ⟨d', host', hended⟩

/-- A host with three frames whose second run fails. -/
def threeFrames : Host where
  source := .ofSettings ⟨64, 64, .nv12, some 3⟩
  model := .ofTensor fourRowsView.bytes (some 2)
  overlay := .listing .empty
  events := .log

/-- A computer without files. -/
def blankMachine : Machine := ⟨⟨[], []⟩, #[], ⟨0⟩, ⟨0⟩⟩

/-- With at most five cycles, three frames make three cycles, and two of them publish two of the four rows each. -/
theorem host_run_closed_form_threeFrames :
    Detector.fourRows.Reachable ∧ Delivers ⟨64, 64, .nv12, some 3⟩ 3 ∧
    SparingSinks (Host.overlayDevice (m := StateM Machine))
      (Host.notifierDevice (m := StateM Machine)) ∧
    Undisturbed (silence : Listener (HostT (StateM Machine))) ∧
    ∃ summary d' host',
      ((Periodic.runFor 4 ⟨Run.defaultPeriod, some 5⟩ Host.devices silence .fourRows).runOn threeFrames
        blankMachine).1 = .ok (some (.ok summary, d'), host') ∧
      summary.cycles = .ok 3 ∧ summary.skipped.toNat = 1 ∧ summary.published.toNat = 2 ∧
      summary.detections.toNat = 4 ∧ summary.sourceLost = true ∧ host'.source.outstanding.toNat = 0 := by
  have hframes : Delivers ⟨64, 64, .nv12, some 3⟩ 3 := ⟨rfl, by decide, by decide, by decide⟩
  have hsinks : SparingSinks (Host.overlayDevice (m := StateM Machine))
      (Host.notifierDevice (m := StateM Machine)) := sparingSinks_host
  have hquiet : Undisturbed (silence : Listener (HostT (StateM Machine))) := undisturbed_silence
  have hsource : threeFrames.source = .ofSettings ⟨64, 64, .nv12, some 3⟩ := rfl
  have hmodel : threeFrames.model = .ofTensor fourRowsView.bytes (some 2) := rfl
  have hrows : (fourRowsView.winners Detector.fourRows.thresholds Detector.fourRows.tieBreak).length = 2 := by
    decide +kernel
  have hrun := host_run_closed_form Detector.reachable_fourRows rfl hframes
    (by decide) hsinks hquiet ⟨Run.defaultPeriod, some 5⟩ (n := 4) (by decide) hsource hmodel
    blankMachine
  dsimp only at hrun
  rw [if_neg (by decide), hrows, if_pos (by decide)] at hrun
  obtain ⟨summary, d', host', hended, hclosed⟩ := hrun
  obtain ⟨cycles, hcycles, htotal⟩ := hclosed.cycles
  obtain rfl : cycles = 3 := UInt64.toNat_inj.1 htotal
  have hskipped : summary.skipped.toNat = 1 := hclosed.skipped
  have hpublished : summary.published.toNat = 2 := by
    rw [hclosed.published, hskipped]
    rfl
  refine ⟨Detector.reachable_fourRows, hframes, hsinks, hquiet, summary, d', host', hended, hcycles,
    hskipped, hpublished, ?_, hclosed.sourceLost.2 ?_, hclosed.outstanding⟩
  · rw [hclosed.detections, hpublished]
  · rintro most ⟨⟩
    decide

/-- A host with a frame that is too long for a block of memory, although a word can hold its length. -/
def longFrame : Host where
  source := .ofSettings ⟨4294967295, 715827883, .rgb, some 1⟩
  model := .ofTensor fourRowsView.bytes none
  overlay := .listing .empty
  events := .log

/-- Its only cycle never ends. -/
theorem longFrame_breaks_off :
    Delivers ⟨4294967295, 715827883, .rgb, some 1⟩ 1 ∧ totalCycles ⟨Run.defaultPeriod, none⟩ 1 = 1 ∧
      ((Periodic.runFor 2 ⟨Run.defaultPeriod, none⟩ Host.devices silence .fourRows).runOn longFrame blankMachine).1 =
        .error .capacity := by
  have hframes : Delivers ⟨4294967295, 715827883, .rgb, some 1⟩ 1 := ⟨rfl, by decide, by decide, by decide⟩
  have hstart : Feed.After ⟨4294967295, 715827883, .rgb, some 1⟩ 1 fourRowsView.bytes none 0 0 0 longFrame.feed :=
    Feed.after_start hframes (by decide)
  exact ⟨hframes, rfl, breaks_runFor hframes (by decide) (by decide) sparingSinks_host undisturbed_silence .fourRows
    (by decide) hstart longFrame blankMachine rfl⟩

end FrameDetect.Program
