import FrameDetect.Proofs.Cycle.Lockstep

/-!
# Failing sinks

What happens if calls of the sinks fail can be told from the log and from nothing else.  To state this,
the lines of the log are kept beside the memory of devices and clocks, where neither can see them.  Then
devices that differ only in which calls of their sinks fail go through a cycle in lockstep, and only
warnings tell them apart.
-/

namespace FrameDetect.Cycle

open FrameDetect.Detect (Detection)
open FrameDetect.Publish (Event)
open FrameDetect.Run (Listener)
open FrameDetect.Time (Duration)

variable {σ F α β : Type}

/-- A line of the log. -/
abbrev Line := Level × String

/-- An action beside the lines of a log, which it neither reads nor writes. -/
def beside (act : StateM σ α) : StateM (σ × List Line) α := fun (memory, lines) =>
  let (a, memory) := act memory
  (a, memory, lines)

/-- Devices and clocks, and beside their memory the lines of the log, the first one first.  Requests to
shut down are not among the surroundings: a listener learns of them from the devices' memory. -/
def Surroundings.overheard (clock : MonadClock (StateM σ)) (devices : Devices (StateM σ) F) :
    Surroundings (σ × List Line) F where
  devices :=
    { source :=
        { acquire := beside devices.source.acquire
          release := fun frame => beside (devices.source.release frame)
          adaptRate := fun spent => beside (devices.source.adaptRate spent)
          flush := beside devices.source.flush }
      model :=
        { preprocess := fun frame => beside (devices.model.preprocess frame)
          infer := fun frame => beside (devices.model.infer frame)
          output := fun index => beside (devices.model.output index) }
      overlay :=
        { clear := beside devices.overlay.clear
          rectangle := fun corners => beside (devices.overlay.rectangle corners)
          commit := beside devices.overlay.commit }
      notifier :=
        { declare := beside devices.notifier.declare
          notify := fun event => beside (devices.notifier.notify event)
          undeclare := beside devices.notifier.undeclare } }
  log level text := fun (memory, lines) => ((), memory, lines ++ [(level, text)])
  elapsed := beside clock.elapsed
  timestamp := beside clock.timestamp
  requests := pure 0
  wait _ := pure 0

/-- A listener among the devices, which it may remember requests with. -/
def Recorded.heed {clock : MonadClock (StateM σ)} {devices : Devices (StateM σ) F}
    (listener : Listener (StateM σ)) : Listener (Recorded (.overheard clock devices)) where
  isTriggered := aside (beside listener.isTriggered)
  waitUntil deadline := aside (beside (listener.waitUntil deadline))

/-- Devices that differ at most in which calls of their sinks fail, and for which reasons.  Whatever
decides about that may be part of the memory. -/
structure Devices.DifferInFailures (devices devices' : Devices (StateM σ) F) : Prop where
  source : devices.source = devices'.source
  model : devices.model = devices'.model
  clear : ∀ memory, (devices.overlay.clear memory).2 = (devices'.overlay.clear memory).2
  rectangle : ∀ corners memory,
    (devices.overlay.rectangle corners memory).2 = (devices'.overlay.rectangle corners memory).2
  commit : ∀ memory, (devices.overlay.commit memory).2 = (devices'.overlay.commit memory).2
  declare : ∀ memory, (devices.notifier.declare memory).2 = (devices'.notifier.declare memory).2
  notify : ∀ event memory,
    (devices.notifier.notify event memory).2 = (devices'.notifier.notify event memory).2
  undeclare : devices.notifier.undeclare = devices'.notifier.undeclare

/-- An action whose result is a failure. -/
def spoil (act : StateM σ (Except String Unit)) : StateM σ (Except String Unit) := do
  let _ ← act
  return .error "unavailable"

/-- The devices, but each call of a sink that can fail does. -/
def Devices.spoiled (devices : Devices (StateM σ) F) : Devices (StateM σ) F :=
  { devices with
    overlay :=
      { clear := spoil devices.overlay.clear
        rectangle := fun corners => spoil (devices.overlay.rectangle corners)
        commit := spoil devices.overlay.commit }
    notifier :=
      { devices.notifier with
        declare := spoil devices.notifier.declare
        notify := fun event => spoil (devices.notifier.notify event) } }

theorem Devices.differInFailures_spoiled (devices : Devices (StateM σ) F) :
    devices.DifferInFailures devices.spoiled :=
  ⟨rfl, rfl, fun _ => rfl, fun _ _ => rfl, fun _ => rfl, fun _ => rfl, fun _ _ => rfl, rfl⟩

/-- Scenes that only warnings tell apart. -/
structure Scene.Alike (s s' : Scene (σ × List Line) F) : Prop where
  memory : s.memory.1 = s'.memory.1
  past : s.past = s'.past
  lines : s.memory.2.filter (·.1 ≠ .warn) = s'.memory.2.filter (·.1 ≠ .warn)

namespace Scene.Alike

variable {s s' s'' : Scene (σ × List Line) F}

theorem refl (s : Scene (σ × List Line) F) : s.Alike s := ⟨rfl, rfl, rfl⟩

theorem symm (h : s.Alike s') : s'.Alike s := ⟨h.memory.symm, h.past.symm, h.lines.symm⟩

theorem trans (h : s.Alike s') (h' : s'.Alike s'') : s.Alike s'' :=
  ⟨h.memory.trans h'.memory, h.past.trans h'.past, h.lines.trans h'.lines⟩

end Scene.Alike

variable {clock : MonadClock (StateM σ)} {devices devices' : Devices (StateM σ) F}

/-- Two actions with the same effect on the memory and the same entries. -/
theorem inStep_perform {act act' : StateM σ α} {entry : α → List (Happening F)} {Q : α → α → Prop}
    (effect : ∀ memory, (act memory).2 = (act' memory).2)
    (entries : ∀ memory, entry (act memory).1 = entry (act' memory).1)
    (results : ∀ memory, Q (act memory).1 (act' memory).1) :
    InStep Scene.Alike (Recorded.perform (beside act) entry : Recorded (.overheard clock devices) α)
      (Recorded.perform (beside act') entry : Recorded (.overheard clock devices') α) Q := by
  rintro ⟨⟨memory, lines⟩, past, shutdown⟩ ⟨⟨memory', lines'⟩, past', shutdown'⟩ ⟨hmemory, hpast, hlines⟩
  obtain rfl : memory = memory' := hmemory
  obtain rfl : past = past' := hpast
  exact ⟨⟨effect memory, congrArg (past ++ [] ++ ·) (entries memory), hlines⟩, results memory⟩

/-- The same call on both sides. -/
theorem inStep_call {act act' : StateM σ α} (h : act = act') (call : α → DeviceCall F) :
    InStep Scene.Alike (Recorded.call (beside act) call : Recorded (.overheard clock devices) α)
      (Recorded.call (beside act') call : Recorded (.overheard clock devices') α) Eq := by
  subst h
  exact inStep_perform (fun _ => rfl) (fun _ => rfl) fun _ => rfl

/-- A call of a sink on both sides, which may fail on one of them. -/
theorem inStep_sink {act act' : StateM σ α}
    (effect : ∀ memory, (act memory).2 = (act' memory).2) (call : DeviceCall F) :
    InStep Scene.Alike
      (Recorded.call (beside act) (fun _ => call) : Recorded (.overheard clock devices) α)
      (Recorded.call (beside act') (fun _ => call) : Recorded (.overheard clock devices') α)
      fun _ _ => True :=
  inStep_perform effect (fun _ => rfl) fun _ => trivial

/-- The same line on both sides. -/
theorem inStep_log (level : Level) (text : String) :
    InStep Scene.Alike (log level text : Recorded (.overheard clock devices) Unit)
      (log level text : Recorded (.overheard clock devices') Unit) Eq := by
  rintro ⟨⟨memory, lines⟩, past, shutdown⟩ ⟨⟨memory', lines'⟩, past', shutdown'⟩ ⟨hmemory, hpast, hlines⟩
  refine ⟨⟨hmemory, congrArg (· ++ [] ++ []) hpast, ?_⟩, rfl⟩
  change (lines ++ [(level, text)]).filter _ = (lines' ++ [(level, text)]).filter _
  rw [List.filter_append, List.filter_append, show lines.filter _ = lines'.filter _ from hlines]

/-- To report a failure adds a warning. -/
theorem alike_report (title : String) (result : Except String Unit)
    (s : Scene (σ × List Line) F) :
    s.Alike ((report title result : Recorded (.overheard clock devices) Unit).run s).2 := by
  cases result with
  | ok => exact .refl s
  | error reason =>
    obtain ⟨⟨memory, lines⟩, past, shutdown⟩ := s
    refine ⟨rfl, ?_, ?_⟩
    · change past = past ++ [] ++ []
      simp
    · change lines.filter _ = (lines ++ [(Level.warn, _)]).filter _
      simp [List.filter_append]

/-- Devices that differ in failures keep step, in scenes that only warnings tell apart. -/
theorem Devices.DifferInFailures.keepStep (h : devices.DifferInFailures devices') :
    KeepStep Scene.Alike (fun _ _ => True) (.overheard clock devices) (.overheard clock devices') where
  acquire := inStep_call (congrArg (·.acquire) h.source) _
  release frame := inStep_call (congrArg (·.release frame) h.source) _
  adaptRate spent := inStep_call (congrArg (·.adaptRate spent) h.source) _
  flush := inStep_call (congrArg (·.flush) h.source) _
  preprocess frame := inStep_call (congrArg (·.preprocess frame) h.model) _
  infer frame := inStep_call (congrArg (·.infer frame) h.model) _
  output index := inStep_call (congrArg (·.output index) h.model) _
  clear := inStep_sink h.clear _
  rectangle corners := inStep_sink (h.rectangle corners) _
  commit := inStep_sink h.commit _
  declare := inStep_sink h.declare _
  notify event := inStep_sink (h.notify event) _
  undeclare := inStep_call h.undeclare _
  log := inStep_log
  elapsed := inStep_perform (fun _ => rfl) (fun _ => rfl) fun _ => rfl
  report title result result' _ := by
    intro s s' hs
    exact ⟨(alike_report title result s).symm.trans (hs.trans (alike_report title result' s')), rfl⟩

end FrameDetect.Cycle
