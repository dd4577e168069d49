import FrameDetect.Proofs.Cycle.Scene
import FrameDetect.Proofs.Run.Exchange

/-!
# What actions write down

An action adds entries to a scene and keeps the requests right.  `Emits` says which calls it adds, and
with which result; it is proved for single calls and put together along `bind`.
-/

namespace FrameDetect.Cycle

open FrameDetect.Run (Shutdown)
open FrameDetect.Time (Duration)

variable {σ F : Type}

@[simp] theorem calls_nil : calls ([] : List (Happening F)) = [] := rfl

@[simp] theorem calls_append (xs ys : List (Happening F)) : calls (xs ++ ys) = calls xs ++ calls ys :=
  List.filterMap_append

@[simp] theorem calls_call (call : DeviceCall F) (past : List (Happening F)) :
    calls (.call call :: past) = call :: calls past := rfl

@[simp] theorem calls_look (past : List (Happening F)) : calls (.look :: past) = calls past := rfl

@[simp] theorem calls_requests (n : Nat) : calls (List.replicate n (.request : Happening F)) = [] := by
  induction n with
  | zero => rfl
  | succ n ih => exact ih

theorem mem_calls {past : List (Happening F)} {call : DeviceCall F} :
    call ∈ calls past ↔ .call call ∈ past := by
  induction past with
  | nil => simp
  | cons entry rest ih => cases entry <;> simp [calls] at ih ⊢ <;> simp [ih]

/-- The listener listens, and knows of a request just if there has been one. -/
structure Scene.Sound (s : Scene σ F) : Prop where
  listening : s.shutdown.listening = true
  heard : .request ∈ s.past ↔ s.shutdown.isRequested

theorem Scene.sound_opening (memory : σ) : (Scene.opening memory : Scene σ F).Sound :=
  ⟨rfl, by simp [opening, Shutdown.quiet, Shutdown.isRequested]⟩

/-- A scene goes on with new entries. -/
structure Extends (s s' : Scene σ F) (new : List (Happening F)) : Prop where
  past : s'.past = s.past ++ new
  sound : s.Sound → s'.Sound

namespace Extends

variable {s s' s'' : Scene σ F} {xs ys : List (Happening F)}

theorem refl (s : Scene σ F) : Extends s s [] := ⟨(List.append_nil _).symm, id⟩

theorem trans (h : Extends s s' xs) (h' : Extends s' s'' ys) : Extends s s'' (xs ++ ys) :=
  ⟨by rw [h'.past, h.past, List.append_assoc], fun sound => h'.sound (h.sound sound)⟩

/-- Entries other than requests leave the requests alone. -/
theorem of_calls (s : Scene σ F) (memory : σ) (h : ∀ entry ∈ xs, entry ≠ .request) :
    Extends s { s with memory, past := s.past ++ xs } xs := by
  refine ⟨rfl, fun sound => ⟨sound.listening, ?_⟩⟩
  have hnew : (.request : Happening F) ∉ xs := fun mem => h _ mem rfl
  simp only [List.mem_append, hnew, or_false]
  exact sound.heard

/-- Requests are heard. -/
theorem of_requests (s : Scene σ F) (memory : σ) (n : Nat) :
    Extends s
      { memory, past := s.past ++ .replicate n .request, shutdown := Shutdown.trigger^[n] s.shutdown }
      (.replicate n .request) := by
  refine ⟨rfl, fun sound => ?_⟩
  -- Nobody stops listening, so that each request is pending until somebody looks.
  have hheard := sound.heard
  rw [Shutdown.isRequested] at hheard
  rw [Shutdown.trigger_iterate sound.listening]
  refine ⟨sound.listening, ?_⟩
  simp only [List.mem_append, List.mem_replicate, hheard, Shutdown.isRequested]
  cases s.shutdown.noticed with
  | true => simp
  | false =>
    simp only [Bool.false_eq_true, false_or, and_true]
    omega

/-- To ask for requests, with or without an entry, changes nothing about them. -/
theorem of_question (s : Scene σ F) (h : ∀ entry ∈ xs, entry ≠ .request) :
    Extends s { s with past := s.past ++ xs, shutdown := s.shutdown.isTriggered.2 } xs := by
  refine ⟨rfl, fun sound => ⟨?_, ?_⟩⟩
  · exact (Shutdown.listening_isTriggered _).trans sound.listening
  · have hnew : (.request : Happening F) ∉ xs := fun mem => h _ mem rfl
    simp only [List.mem_append, hnew, or_false, Shutdown.isRequested_isTriggered]
    exact sound.heard

/-- Requests during a wait are heard. -/
theorem of_wait (s : Scene σ F) (memory : σ) (n : Nat) :
    Extends s
      { memory, past := s.past ++ .replicate n .request, shutdown := (s.shutdown.wait n).2 }
      (.replicate n .request) := by
  refine ⟨rfl, fun sound => ?_⟩
  have heard := (of_requests s memory n).sound sound
  have nothing : ∀ entry ∈ ([] : List (Happening F)), entry ≠ .request := by simp
  have asked := (of_question _ nothing).sound heard
  rw [List.append_nil] at asked
  rw [Shutdown.wait_eq sound.listening]
  exact asked

end Extends

/-! ## Actions without a look at the requests -/

variable {w : Surroundings σ F} {α β : Type}

/-- An action adds calls and has a result as `Q` says, whatever happened before. -/
def Emits (x : Recorded w α) (Q : List (DeviceCall F) → α → Prop) : Prop :=
  ∀ s, ∃ new, Extends s (x.run s).2 new ∧ .look ∉ new ∧ Q (calls new) (x.run s).1

section
variable {P Q : List (DeviceCall F) → α → Prop} {R : List (DeviceCall F) → β → Prop}

theorem Emits.mono {x : Recorded w α} (hx : Emits x P) (h : ∀ made a, P made a → Q made a) :
    Emits x Q := by
  intro s
  obtain ⟨new, hext, hlook, hP⟩ := hx s
  exact ⟨new, hext, hlook, h _ _ hP⟩

theorem emits_pure {a : α} (h : Q [] a) : Emits (pure a : Recorded w α) Q := by
  intro s
  exact ⟨[], Extends.refl s, List.not_mem_nil, h⟩

/-- One action after the other adds its calls behind those of the first. -/
theorem Emits.bind {x : Recorded w α} {f : α → Recorded w β} (hx : Emits x P)
    (hf : ∀ made a, P made a → Emits (f a) fun more b => R (made ++ more) b) :
    Emits (x >>= f) R := by
  intro s
  obtain ⟨new, hext, hlook, hP⟩ := hx s
  obtain ⟨new', hext', hlook', hR⟩ := hf _ _ hP (x.run s).2
  refine ⟨new ++ new', hext.trans hext', ?_, ?_⟩
  · rw [List.mem_append]
    exact not_or.2 ⟨hlook, hlook'⟩
  · rw [calls_append]
    exact hR

end

/-- What is done adds its entry behind the requests that come first. -/
theorem emits_perform (act : StateM σ α) {entry : α → List (Happening F)}
    (h : ∀ a, ∀ e ∈ entry a, ∃ call, e = .call call) :
    Emits (Recorded.perform act entry : Recorded w α) fun made a => made = calls (entry a) := by
  intro s
  have hrequest : ∀ a, ∀ e ∈ entry a, e ≠ .request := by
    rintro a e he rfl
    obtain ⟨call, hcall⟩ := h a _ he
    cases hcall
  refine ⟨_, (Extends.of_requests s _ (w.requests s.memory).1).trans
    (Extends.of_calls _ _ (hrequest _)), ?_, ?_⟩
  · intro hlook
    rcases List.mem_append.1 hlook with hlook | hlook
    · cases List.eq_of_mem_replicate hlook
    · obtain ⟨call, hcall⟩ := h _ _ hlook
      cases hcall
  · rw [calls_append, calls_requests]
    rfl

theorem emits_call (act : StateM σ α) (call : α → DeviceCall F) :
    Emits (Recorded.call act call : Recorded w α) fun made a => made = [call a] := by
  apply emits_perform
  intro a e he
  exact ⟨call a, List.mem_singleton.1 he⟩

theorem emits_aside (act : StateM σ α) :
    Emits (Recorded.aside act : Recorded w α) fun made _ => made = [] := by
  apply emits_perform
  intro a e he
  cases he

theorem emits_log (level : Level) (text : String) :
    Emits (log level text : Recorded w Unit) fun made _ => made = [] :=
  emits_aside _

theorem emits_elapsed : Emits (elapsed : Recorded w Duration) fun made _ => made = [] :=
  emits_aside _

/-- To wait adds no call and no look. -/
theorem emits_waitUntil (deadline : Duration) :
    Emits ((Recorded.listener w).waitUntil deadline) fun made _ => made = [] := by
  intro s
  refine ⟨_, (Extends.of_requests s _ (w.requests s.memory).1).trans (Extends.of_wait _ _ _), ?_, ?_⟩
  · intro hlook
    rcases List.mem_append.1 hlook with hlook | hlook <;> cases List.eq_of_mem_replicate hlook
  · rw [calls_append, calls_requests, calls_requests]
    rfl

/-- A report adds no call. -/
theorem emits_report (title : String) (result : Except String Unit) :
    Emits (report title result : Recorded w Unit) fun made _ => made = [] := by
  cases result with
  | ok => exact emits_pure rfl
  | error reason => exact emits_log _ _

/-- A call adds the same entry if its time is taken. -/
theorem emits_timed (act : StateM σ α) (call : α → DeviceCall F) :
    Emits (timed (Recorded.call act call) : Recorded w (α × Duration)) fun made r =>
      made = [call r.1] := by
  refine emits_elapsed.bind ?_
  rintro _ start rfl
  refine (emits_call act call).bind ?_
  rintro _ result rfl
  refine emits_elapsed.bind ?_
  rintro _ stop rfl
  exact emits_pure rfl

/-- An action for each element of a list adds the calls of each in turn. -/
theorem emits_forM {f : α → Recorded w Unit} {g : α → List (DeviceCall F)}
    (h : ∀ a, Emits (f a) fun made _ => made = g a) (xs : List α) :
    Emits (xs.forM f) fun made _ => made = xs.flatMap g := by
  induction xs with
  | nil => exact emits_pure rfl
  | cons a rest ih =>
    refine (h a).bind ?_
    rintro _ - rfl
    refine ih.mono ?_
    rintro _ - rfl
    rfl

/-! ## Looks at the requests -/

/-- What follows a look at the requests knows whether one has been made. -/
theorem exists_of_look {k : Bool → Recorded w α} {s : Scene σ F} (sound : s.Sound)
    {Q : List (Happening F) → α → Prop}
    (h : ∀ b head, calls head = [] → (b = true ↔ .request ∈ s.past ++ head) →
      Emits (k b) fun made a => ∀ body, .look ∉ body → calls body = made → Q (head ++ .look :: body) a) :
    ∃ new, Extends s (((Recorded.listener w).isTriggered >>= k).run s).2 new ∧
      Q new (((Recorded.listener w).isTriggered >>= k).run s).1 := by
  have harrive := Extends.of_requests s (w.requests s.memory).2 (w.requests s.memory).1
  have other : ∀ entry ∈ ([.look] : List (Happening F)), entry ≠ .request := by simp
  have hask := harrive.trans (Extends.of_question _ other)
  obtain ⟨body, hbody, hlook, hQ⟩ := h _ _ (calls_requests _)
    ((Shutdown.isTriggered_fst _).trans (harrive.sound sound).heard.symm) _
  refine ⟨_, hask.trans hbody, ?_⟩
  rw [List.append_assoc]
  exact hQ body hlook rfl

end FrameDetect.Cycle
