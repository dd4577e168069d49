import FrameDetect.Proofs.Cycle.Scene

/-!
# Actions in lockstep

Two actions are compared from one step to the next: as long as each pair of steps leaves the scenes
related, the whole actions do.  The relation may be equality, for two actions in the same surroundings,
or forget what is not to be compared.
-/

namespace FrameDetect.Cycle

open FrameDetect.Detect (Detection)
open FrameDetect.Time (Duration)

variable {σ σ' F F' : Type} {w : Surroundings σ F} {w' : Surroundings σ' F'}
  {α α' β β' : Type} {R : Scene σ F → Scene σ' F' → Prop}

instance : LawfulMonad (Recorded w) := inferInstanceAs (LawfulMonad (StateM (Scene σ F)))

/-- From scenes that `R` relates, two actions leave scenes that `R` relates, with results as `Q` says. -/
def InStep (R : Scene σ F → Scene σ' F' → Prop) (x : Recorded w α) (x' : Recorded w' α')
    (Q : α → α' → Prop) : Prop :=
  ∀ s s', R s s' → R (x.run s).2 (x'.run s').2 ∧ Q (x.run s).1 (x'.run s').1

theorem InStep.mono {P Q : α → α' → Prop} {x : Recorded w α} {x' : Recorded w' α'}
    (hx : InStep R x x' P) (h : ∀ a a', P a a' → Q a a') : InStep R x x' Q := by
  intro s s' hs
  obtain ⟨hleft, hP⟩ := hx s s' hs
  exact ⟨hleft, h _ _ hP⟩

theorem inStep_pure {Q : α → α' → Prop} {a : α} {a' : α'} (h : Q a a') :
    InStep R (pure a : Recorded w α) (pure a' : Recorded w' α') Q :=
  fun _ _ hs => ⟨hs, h⟩

/-- What follows may depend on both results, as far as they are known. -/
theorem InStep.bind {P : α → α' → Prop} {Q : β → β' → Prop} {x : Recorded w α} {x' : Recorded w' α'}
    {f : α → Recorded w β} {f' : α' → Recorded w' β'} (hx : InStep R x x' P)
    (hf : ∀ a a', P a a' → InStep R (f a) (f' a') Q) : InStep R (x >>= f) (x' >>= f') Q := by
  intro s s' hs
  obtain ⟨hleft, hP⟩ := hx s s' hs
  exact hf _ _ hP _ _ hleft

/-- Actions for each element of one list. -/
theorem inStep_forM {f : α → Recorded w Unit} {f' : α → Recorded w' Unit}
    (h : ∀ a, InStep R (f a) (f' a) Eq) (xs : List α) :
    InStep R (xs.forM f) (xs.forM f') Eq := by
  induction xs with
  | nil => exact inStep_pure rfl
  | cons a rest ih => exact (h a).bind fun _ _ _ => ih

/-- Every action keeps step with itself. -/
theorem inStep_self (x : Recorded w α) : InStep Eq x x Eq := by
  rintro s _ rfl
  exact ⟨rfl, rfl⟩

/-! ## Surroundings and detectors in lockstep -/

/-- Surroundings in which everything keeps step.  The results of sinks need only be related by `T`, if
that is enough to report them in step. -/
structure KeepStep (R : Scene σ F → Scene σ' F → Prop)
    (T : Except String Unit → Except String Unit → Prop) (w : Surroundings σ F)
    (w' : Surroundings σ' F) : Prop where
  acquire : InStep R (Recorded.devices w).source.acquire (Recorded.devices w').source.acquire Eq
  release : ∀ frame, InStep R ((Recorded.devices w).source.release frame)
    ((Recorded.devices w').source.release frame) Eq
  adaptRate : ∀ spent, InStep R ((Recorded.devices w).source.adaptRate spent)
    ((Recorded.devices w').source.adaptRate spent) Eq
  flush : InStep R (Recorded.devices w).source.flush (Recorded.devices w').source.flush Eq
  preprocess : ∀ frame, InStep R ((Recorded.devices w).model.preprocess frame)
    ((Recorded.devices w').model.preprocess frame) Eq
  infer : ∀ frame, InStep R ((Recorded.devices w).model.infer frame)
    ((Recorded.devices w').model.infer frame) Eq
  output : ∀ index, InStep R ((Recorded.devices w).model.output index)
    ((Recorded.devices w').model.output index) Eq
  clear : InStep R (Recorded.devices w).overlay.clear (Recorded.devices w').overlay.clear T
  rectangle : ∀ corners, InStep R ((Recorded.devices w).overlay.rectangle corners)
    ((Recorded.devices w').overlay.rectangle corners) T
  commit : InStep R (Recorded.devices w).overlay.commit (Recorded.devices w').overlay.commit T
  declare : InStep R (Recorded.devices w).notifier.declare (Recorded.devices w').notifier.declare T
  notify : ∀ event, InStep R ((Recorded.devices w).notifier.notify event)
    ((Recorded.devices w').notifier.notify event) T
  undeclare : InStep R (Recorded.devices w).notifier.undeclare
    (Recorded.devices w').notifier.undeclare Eq
  log : ∀ level text, InStep R (log level text : Recorded w Unit) (log level text : Recorded w' Unit) Eq
  elapsed : InStep R (elapsed : Recorded w Duration) (elapsed : Recorded w' Duration) Eq
  report : ∀ title result result', T result result' →
    InStep R (report title result : Recorded w Unit) (report title result' : Recorded w' Unit) Eq

/-- Detectors that `S` relates have the same labels and detect the same in any bytes. -/
structure Detector.Matches (S : Detector → Detector → Prop) : Prop where
  labels : ∀ {d d'}, S d d' → d.labels = d'.labels
  detect : ∀ {d d'}, S d d' → ∀ bytes,
    (d.detect bytes).1 = (d'.detect bytes).1 ∧ S (d.detect bytes).2 (d'.detect bytes).2

/-- Surroundings keep step with themselves. -/
theorem keepStep_self (w : Surroundings σ F) : KeepStep Eq Eq w w where
  acquire := inStep_self _
  release _ := inStep_self _
  adaptRate _ := inStep_self _
  flush := inStep_self _
  preprocess _ := inStep_self _
  infer _ := inStep_self _
  output _ := inStep_self _
  clear := inStep_self _
  rectangle _ := inStep_self _
  commit := inStep_self _
  declare := inStep_self _
  notify _ := inStep_self _
  undeclare := inStep_self _
  log _ _ := inStep_self _
  elapsed := inStep_self _
  report := by
    rintro title result _ rfl
    exact inStep_self _

/-- Each detector matches itself. -/
theorem Detector.matches_eq : Matches Eq where
  labels := fun h => h ▸ rfl
  detect := by
    rintro d _ rfl bytes
    exact ⟨rfl, rfl⟩

namespace KeepStep

variable {R : Scene σ F → Scene σ' F → Prop} {T : Except String Unit → Except String Unit → Prop}
  {w : Surroundings σ F} {w' : Surroundings σ' F} {S : Detector → Detector → Prop} {d d' : Detector}

/-- The time is taken on both sides. -/
theorem inStep_timed (h : KeepStep R T w w') {x : Recorded w α} {x' : Recorded w' α}
    (hx : InStep R x x' Eq) : InStep R (timed x) (timed x') Eq := by
  unfold timed
  refine h.elapsed.bind ?_
  rintro start _ rfl
  refine hx.bind ?_
  rintro result _ rfl
  refine h.elapsed.bind ?_
  rintro stop _ rfl
  exact inStep_pure rfl

theorem inStep_declare (h : KeepStep R T w w') :
    InStep R (Recorded.devices w).declare (Recorded.devices w').declare Eq := by
  unfold Devices.declare
  exact h.declare.bind fun _ _ declared => h.report _ _ _ declared

/-- Detections are drawn and sent with the same labels. -/
theorem inStep_publishOne (h : KeepStep R T w w') (hlabels : d.labels = d'.labels)
    (x : Detection) :
    InStep R (publishOne (Recorded.devices w) d x) (publishOne (Recorded.devices w') d' x) Eq := by
  have hlabel : d.label = d'.label := by
    funext index
    rw [Detector.label, Detector.label, hlabels]
  unfold publishOne
  rw [hlabel]
  refine (h.log _ _).bind ?_
  rintro _ _ rfl
  refine (h.rectangle _).bind ?_
  intro _ _ drawn
  refine (h.report _ _ _ drawn).bind ?_
  rintro _ _ rfl
  exact (h.notify _).bind fun _ _ sent => h.report _ _ _ sent

theorem inStep_publish (h : KeepStep R T w w') (hlabels : d.labels = d'.labels)
    (detections : List Detection) :
    InStep R (publish (Recorded.devices w) d detections)
      (publish (Recorded.devices w') d' detections) Eq := by
  unfold publish
  refine h.clear.bind ?_
  intro _ _ cleared
  refine (h.report _ _ _ cleared).bind ?_
  rintro _ _ rfl
  refine (inStep_forM (h.inStep_publishOne hlabels) detections).bind ?_
  rintro _ _ rfl
  exact h.commit.bind fun _ _ committed => h.report _ _ _ committed

theorem inStep_process (h : KeepStep R T w w') (hS : Detector.Matches S) (hd : S d d') (frame : F) :
    InStep R (process (Recorded.devices w) d frame) (process (Recorded.devices w') d' frame)
      fun r r' => r.1 = r'.1 ∧ S r.2 r'.2 := by
  unfold process
  refine (h.inStep_timed (h.preprocess frame)).bind ?_
  rintro ⟨prepared, preparing⟩ _ rfl
  cases prepared with
  | error reason => exact inStep_pure ⟨rfl, hd⟩
  | ok =>
    refine (h.inStep_timed (h.infer frame)).bind ?_
    rintro ⟨inferred, inferring⟩ _ rfl
    cases inferred with
    | error reason => exact inStep_pure ⟨rfl, hd⟩
    | ok =>
      refine (h.adaptRate _).bind ?_
      rintro _ _ rfl
      refine (h.output 0).bind ?_
      rintro output _ rfl
      cases output with
      | error reason => exact inStep_pure ⟨rfl, hd⟩
      | ok bytes =>
        obtain ⟨hsame, hafter⟩ := hS.detect hd bytes
        rcases hdetect : d.detect bytes with ⟨result, e⟩
        rcases hdetect' : d'.detect bytes with ⟨result', e'⟩
        rw [hdetect, hdetect'] at hsame hafter
        obtain rfl : result = result' := hsame
        dsimp only
        rw [hdetect, hdetect']
        cases result with
        | error fault => exact inStep_pure ⟨rfl, hafter⟩
        | ok detections =>
          refine (h.inStep_publish (hS.labels hafter) detections).bind ?_
          rintro _ _ rfl
          exact inStep_pure ⟨rfl, hafter⟩

/-- Cycles of matching detectors keep step. -/
theorem inStep_run (h : KeepStep R T w w') (hS : Detector.Matches S) (hd : S d d') :
    InStep R (run (Recorded.devices w) d) (run (Recorded.devices w') d')
      fun r r' => r.1 = r'.1 ∧ S r.2 r'.2 := by
  unfold run
  refine h.acquire.bind ?_
  rintro acquired _ rfl
  cases acquired with
  | none =>
    refine (h.log _ _).bind ?_
    rintro _ _ rfl
    exact inStep_pure ⟨rfl, hd⟩
  | some frame =>
    refine (h.inStep_process hS hd frame).bind ?_
    rintro ⟨result, e⟩ ⟨_, e'⟩ ⟨rfl, hafter⟩
    refine (h.release frame).bind ?_
    rintro _ _ rfl
    -- What is left to do after the release is settled by the result.
    rcases result with fault | (detections | ⟨stage, reason⟩ | _)
    · refine (h.log _ _).bind ?_
      rintro _ _ rfl
      exact inStep_pure ⟨rfl, hafter⟩
    · exact inStep_pure ⟨rfl, hafter⟩
    · refine (h.log _ _).bind ?_
      rintro _ _ rfl
      refine h.flush.bind ?_
      rintro _ _ rfl
      exact inStep_pure ⟨rfl, hafter⟩
    · exact inStep_pure ⟨rfl, hafter⟩

end KeepStep

end FrameDetect.Cycle
