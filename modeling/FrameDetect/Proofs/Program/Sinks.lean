import FrameDetect.Proofs.Program.Yields

/-!
# Sinks of a host

Sinks may do anything, and fail whenever they like, as long as they leave alone what feeds the host.  The
sinks that the program has itself do.
-/

namespace FrameDetect.Program

open FrameDetect.Publish (EventOutput Journal Listing Notifier Overlay OverlayOutput Picture)

variable {τ : Type}

/-- Sinks without access to what feeds the host.  Whether and when they fail is left open, and so is what
they do to everything else. -/
structure SparingSinks (overlay : Overlay (HostT (StateM τ))) (notifier : Notifier (HostT (StateM τ))) :
    Prop where
  clear : Spares overlay.clear
  rectangle : ∀ corners, Spares (overlay.rectangle corners)
  commit : Spares overlay.commit
  declare : Spares notifier.declare
  notify : ∀ event, Spares (notifier.notify event)
  undeclare : Spares notifier.undeclare

/-- What is done with the host that was looked at. -/
theorem spares_of_get {α : Type} {f : Host → HostT (StateM τ) α}
    (hf : ∀ host, Yields (f host) host.feed fun _ feed' => feed' = host.feed) : Spares (get >>= f) := by
  intro feed
  refine yields_get.bind ?_
  rintro host _ ⟨rfl, rfl⟩
  exact hf host

/-! ## Sinks of the program -/

section
variable [MonadLog (StateM τ)]

theorem spares_listing (l : Listing) : Spares (l.commit : HostT (StateM τ) Listing) :=
  (spares_log _ _).andThen fun _ => spares_pure _

theorem spares_undeclare (output : EventOutput) :
    Spares (output.undeclare : HostT (StateM τ) EventOutput) := by
  cases output with
  | log => exact spares_pure _
  | journal j =>
    refine Spares.andThen ?_ fun _ => spares_pure _
    unfold Journal.undeclare
    split
    · exact (spares_log _ _).andThen fun _ => spares_pure _
    · exact spares_pure _

end

theorem spares_picture [MonadStorage (StateM τ)] (p : Picture) :
    Spares (p.commit : HostT (StateM τ) (Except Publish.PictureFault Unit)) := by
  refine (spares_makeParent _).andThen ?_
  rintro (fault | _)
  · exact spares_pure _
  · dsimp only
    split
    · exact spares_pure _
    · refine (spares_writeBytes _ _).andThen ?_
      rintro (fault | _) <;> exact spares_pure _

variable [MonadLog (StateM τ)] [MonadStorage (StateM τ)]

theorem spares_commit (output : OverlayOutput) :
    Spares (output.commit : HostT (StateM τ) (Except Publish.OutputFault Unit × OverlayOutput)) := by
  cases output with
  | listing l => exact (spares_listing l).andThen fun _ => spares_pure _
  | picture p => exact (spares_picture p).andThen fun _ => spares_pure _

theorem spares_declare (output : EventOutput) :
    Spares (output.declare : HostT (StateM τ) (Except Publish.OutputFault Unit × EventOutput)) := by
  cases output with
  | log => exact spares_pure _
  | journal j =>
    refine Spares.andThen ?_ fun _ => spares_pure _
    unfold Journal.declare
    split
    · exact spares_pure _
    · refine (spares_makeParent _).andThen ?_
      rintro (fault | _)
      · exact spares_pure _
      · refine (spares_appendBytes _ _).andThen ?_
        rintro (fault | _)
        · exact spares_pure _
        · exact (spares_log _ _).andThen fun _ => spares_pure _

theorem spares_notify [MonadClock (StateM τ)] (output : EventOutput) (event : Publish.Event) :
    Spares (output.notify event : HostT (StateM τ) (Except Publish.OutputFault Unit)) := by
  cases output with
  | log => exact (spares_log _ _).andThen fun _ => spares_pure _
  | journal j =>
    refine Spares.andThen ?_ fun _ => spares_pure _
    unfold Journal.notify
    split
    · exact spares_pure _
    · refine spares_timestamp.andThen fun time => (spares_appendBytes _ _).andThen ?_
      rintro (fault | _) <;> exact spares_pure _

/-- The program's own sinks change what is kept of overlay and events, and nothing else of the host. -/
theorem sparingSinks_host [MonadClock (StateM τ)] :
    SparingSinks (Host.overlayDevice (m := StateM τ)) (Host.notifierDevice (m := StateM τ)) := by
  unfold Host.overlayDevice Host.notifierDevice
  constructor <;> dsimp only
  case clear => exact Spares.andThen (spares_modify fun _ => rfl) fun _ => spares_pure _
  case rectangle =>
    exact fun _ => Spares.andThen (spares_modify fun _ => rfl) fun _ => spares_pure _
  case commit =>
    refine spares_of_get fun host => (spares_commit host.overlay).bind fun r => ?_
    refine (yields_set _).bind ?_
    rintro _ _ rfl
    exact yields_pure rfl
  case declare =>
    refine spares_of_get fun host => (spares_declare host.events).bind fun r => ?_
    refine (yields_set _).bind ?_
    rintro _ _ rfl
    exact yields_pure rfl
  case notify =>
    exact fun event => spares_get.andThen fun host =>
      (spares_notify host.events event).andThen fun _ => spares_pure _
  case undeclare =>
    exact spares_of_get fun host => (spares_undeclare host.events).bind fun events => yields_set _

end FrameDetect.Program
