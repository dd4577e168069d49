import FrameDetect.Proofs.Program.Feed

/-!
# Actions on a host

What an action comes to, as far as it depends on what feeds the host.  Overlay, events, files, log and
clocks may be anything; `Yields` and `Breaks` are proved for single steps and put together along `bind`.
-/

namespace FrameDetect.Program

open FrameDetect.Cycle (report timed)
open FrameDetect.Time (Duration Timestamp)

variable {τ α β : Type}

/-- The result of an action on a host and the host afterwards, unless an overflow breaks it off, and everything else
afterwards. -/
def HostT.runOn (x : HostT (StateM τ) α) (host : Host) (memory : τ) : Except Overflow (α × Host) × τ := x host memory

/-- With a feed, an action comes to a result and leaves a feed as `Q` says, whatever else there is. -/
def Yields (x : HostT (StateM τ) α) (feed : Feed) (Q : α → Feed → Prop) : Prop :=
  ∀ host memory, host.feed = feed → ∃ a host', (x.runOn host memory).1 = .ok (a, host') ∧ Q a host'.feed

/-- With a feed, an action is broken off, whatever else there is. -/
def Breaks (x : HostT (StateM τ) α) (feed : Feed) (cause : Overflow) : Prop :=
  ∀ host memory, host.feed = feed → (x.runOn host memory).1 = .error cause

/-- An action that leaves the feed alone. -/
def Spares (x : HostT (StateM τ) α) : Prop := ∀ feed, Yields x feed fun _ feed' => feed' = feed

section
variable {feed : Feed} {cause : Overflow} {P Q : α → Feed → Prop} {R : β → Feed → Prop}

theorem Yields.mono {x : HostT (StateM τ) α} (hx : Yields x feed P)
    (h : ∀ a feed', P a feed' → Q a feed') : Yields x feed Q := by
  intro host memory hfeed
  obtain ⟨a, host', hrun, hP⟩ := hx host memory hfeed
  exact ⟨a, host', hrun, h _ _ hP⟩

theorem yields_pure {a : α} (h : Q a feed) : Yields (pure a : HostT (StateM τ) α) feed Q := by
  rintro host memory rfl
  exact ⟨a, host, rfl, h⟩

/-- What comes after an action goes on from what the action comes to. -/
theorem runOn_bind {x : HostT (StateM τ) α} {host host' : Host} {memory : τ} {a : α}
    (h : (x.runOn host memory).1 = .ok (a, host')) (f : α → HostT (StateM τ) β) :
    (x >>= f).runOn host memory = (f a).runOn host' (x.runOn host memory).2 := by
  change (ExceptT.bindCont (fun r => f r.1 r.2) (x.runOn host memory).1) (x.runOn host memory).2 = _
  rw [h]
  rfl

/-- One action after the other begins with the feed that the first one leaves. -/
theorem Yields.bind {x : HostT (StateM τ) α} {f : α → HostT (StateM τ) β} (hx : Yields x feed P)
    (hf : ∀ a feed', P a feed' → Yields (f a) feed' R) : Yields (x >>= f) feed R := by
  intro host memory hfeed
  obtain ⟨a, host', hrun, hP⟩ := hx host memory hfeed
  rw [runOn_bind hrun]
  exact hf _ _ hP _ _ rfl

/-- What comes after an action breaks the whole off. -/
theorem Yields.breaks {x : HostT (StateM τ) α} {f : α → HostT (StateM τ) β} (hx : Yields x feed P)
    (hf : ∀ a feed', P a feed' → Breaks (f a) feed' cause) : Breaks (x >>= f) feed cause := by
  intro host memory hfeed
  obtain ⟨a, host', hrun, hP⟩ := hx host memory hfeed
  rw [runOn_bind hrun]
  exact hf _ _ hP _ _ rfl

/-- Nothing comes after an action that is broken off. -/
theorem Breaks.bind {x : HostT (StateM τ) α} (hx : Breaks x feed cause) (f : α → HostT (StateM τ) β) :
    Breaks (x >>= f) feed cause := by
  intro host memory hfeed
  change (ExceptT.bindCont (fun r => f r.1 r.2) (x.runOn host memory).1 (x.runOn host memory).2).1 = _
  rw [hx host memory hfeed]
  rfl

/-- What comes after an action that leaves the feed alone. -/
theorem Spares.bind {x : HostT (StateM τ) α} {f : α → HostT (StateM τ) β} (hx : Spares x)
    (hf : ∀ a, Yields (f a) feed R) : Yields (x >>= f) feed R :=
  (hx feed).bind fun a _ hfeed => hfeed ▸ hf a

theorem Spares.breaks {x : HostT (StateM τ) α} {f : α → HostT (StateM τ) β} (hx : Spares x)
    (hf : ∀ a, Breaks (f a) feed cause) : Breaks (x >>= f) feed cause :=
  (hx feed).breaks fun a _ hfeed => hfeed ▸ hf a

/-- The host that an action looks at has the feed. -/
theorem yields_get :
    Yields (get : HostT (StateM τ) Host) feed fun host feed' => host.feed = feed ∧ feed' = feed := by
  rintro host memory rfl
  exact ⟨host, host, rfl, rfl, rfl⟩

theorem yields_set (host : Host) :
    Yields (set host : HostT (StateM τ) PUnit) feed fun _ feed' => feed' = host.feed :=
  fun _ _ _ => ⟨_, host, rfl, rfl⟩

theorem yields_modify {f : Host → Host} {Q : Feed → Prop}
    (h : ∀ host, host.feed = feed → Q (f host).feed) :
    Yields (modify f : HostT (StateM τ) PUnit) feed fun _ feed' => Q feed' :=
  fun host _ hfeed => ⟨_, f host, rfl, h host hfeed⟩

/-- What a device does leaves the feed alone, until the device is set. -/
theorem yields_ofDevice {act : StateM τ (Except Overflow α)} {a : α} (h : ∀ memory, (act memory).1 = .ok a) :
    Yields (HostT.ofDevice act) feed fun a' feed' => a' = a ∧ feed' = feed := by
  rintro host memory rfl
  refine ⟨a, host, ?_, rfl, rfl⟩
  change (ExceptT.bindCont (m := StateM τ) (fun a => pure (a, host)) (act memory).1 (act memory).2).1 = _
  rw [h]
  rfl

theorem breaks_ofDevice {act : StateM τ (Except Overflow α)} (h : ∀ memory, (act memory).1 = .error cause) :
    Breaks (HostT.ofDevice act) feed cause := by
  rintro host memory rfl
  change (ExceptT.bindCont (m := StateM τ) (fun a => pure (a, host)) (act memory).1 (act memory).2).1 = _
  rw [h]
  rfl

end

theorem spares_pure (a : α) : Spares (pure a : HostT (StateM τ) α) :=
  fun _ => yields_pure rfl

theorem Spares.andThen {x : HostT (StateM τ) α} {f : α → HostT (StateM τ) β} (hx : Spares x)
    (hf : ∀ a, Spares (f a)) : Spares (x >>= f) :=
  fun feed => hx.bind fun a => hf a feed

/-- Actions for each element of a list. -/
theorem spares_forM {f : α → HostT (StateM τ) Unit} (h : ∀ a, Spares (f a)) (xs : List α) :
    Spares (xs.forM f) := by
  induction xs with
  | nil => exact spares_pure ()
  | cons a rest ih => exact (h a).andThen fun _ => ih

/-- What is done elsewhere leaves the feed alone. -/
theorem spares_lift (act : StateM τ α) : Spares (StateT.lift (ExceptT.lift act) : HostT (StateM τ) α) := by
  rintro feed host memory rfl
  exact ⟨(act memory).1, host, rfl, rfl⟩

theorem spares_get : Spares (get : HostT (StateM τ) Host) :=
  fun _ => yields_get.mono fun _ _ h => h.2

theorem spares_modify {f : Host → Host} (h : ∀ host, (f host).feed = host.feed) :
    Spares (modify f : HostT (StateM τ) PUnit) :=
  fun _ => yields_modify fun host hfeed => (h host).trans hfeed

/-! ## Log, files and clocks -/

section
variable [MonadLog (StateM τ)]

theorem spares_log (level : Level) (text : String) : Spares (log level text : HostT (StateM τ) Unit) :=
  spares_lift _

theorem spares_report (title : String) (result : Except String Unit) :
    Spares (report title result : HostT (StateM τ) Unit) := by
  cases result with
  | ok => exact spares_pure ()
  | error reason => exact spares_log _ _

end

section
variable [MonadStorage (StateM τ)]

theorem spares_writeBytes (path : String) (bytes : ByteArray) :
    Spares (writeBytes path bytes : HostT (StateM τ) (Except Storage.Fault Unit)) :=
  spares_lift _

theorem spares_appendBytes (path : String) (bytes : ByteArray) :
    Spares (appendBytes path bytes : HostT (StateM τ) (Except Storage.Fault Unit)) :=
  spares_lift _

theorem spares_makeParent (path : String) :
    Spares (makeParent path : HostT (StateM τ) (Except Storage.Fault Unit)) := by
  unfold makeParent
  cases Storage.parent? path with
  | none => exact spares_pure _
  | some parent =>
    dsimp only
    split
    · exact spares_pure _
    · exact spares_lift _

end

section
variable [MonadClock (StateM τ)]

theorem spares_elapsed : Spares (elapsed : HostT (StateM τ) Duration) := spares_lift _

theorem spares_timestamp : Spares (timestamp : HostT (StateM τ) Timestamp) := spares_lift _

/-- To take the time of an action changes nothing about what it comes to. -/
theorem Yields.timed {feed : Feed} {x : HostT (StateM τ) α} {Q : α → Feed → Prop}
    (hx : Yields x feed Q) : Yields (timed x) feed fun r feed' => Q r.1 feed' := by
  refine spares_elapsed.bind fun start => ?_
  refine hx.bind fun a feed' hQ => ?_
  exact spares_elapsed.bind fun stop => yields_pure hQ

end

end FrameDetect.Program
