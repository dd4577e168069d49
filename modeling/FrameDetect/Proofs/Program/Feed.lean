import FrameDetect.Program.Host
import FrameDetect.Proofs.Video.Accounting
import Mathlib.Algebra.Group.Nat.Defs
import Mathlib.Data.Nat.Basic
import Mathlib.Order.Monotone.Basic

/-!
# What feeds a host

The source of a host counts its frames down, and its model counts its runs up and fails in every so
many of them.  Here both are followed by plain counts: how many frames were acquired, how many runs there
were, and how many frames are held.
-/

namespace FrameDetect.Program

open FrameDetect.Inference (Replay ReplayFault)
open FrameDetect.Video (Frame PixelFormat Synthetic SyntheticSettings fullLength)

/-- The devices of a host that deliver frames and tensors. -/
structure Feed where
  source : Synthetic
  model : Replay

/-- What feeds a host. -/
def Host.feed (host : Host) : Feed := ⟨host.source, host.model⟩

/-! ## Failures at intervals -/

/-- Whether the run of a number fails. -/
def FailsAt (every : Option UInt64) (n : Nat) : Prop := ∃ k, every = some k ∧ k.toNat ∣ n

instance (every : Option UInt64) (n : Nat) : Decidable (FailsAt every n) :=
  match every with
  | none => isFalse (by simp [FailsAt])
  | some k => decidable_of_iff (k.toNat ∣ n) (by simp [FailsAt])

/-- How many of the first runs fail. -/
def failures (every : Option UInt64) (n : Nat) : Nat :=
  match every with
  | none => 0
  | some k => n / k.toNat

theorem failures_zero (every : Option UInt64) : failures every 0 = 0 := by
  cases every with
  | none => rfl
  | some k => exact Nat.zero_div _

/-- One more run adds one failure if it fails. -/
theorem failures_succ (every : Option UInt64) (n : Nat) :
    failures every (n + 1) = failures every n + if FailsAt every (n + 1) then 1 else 0 := by
  cases every with
  | none => simp [failures, FailsAt]
  | some k => simp [failures, FailsAt, Nat.succ_div]

/-- How many of the first runs do not fail. -/
def successes (every : Option UInt64) (n : Nat) : Nat := n - failures every n

theorem failures_le (every : Option UInt64) (n : Nat) : failures every n ≤ n := by
  cases every with
  | none => exact Nat.zero_le n
  | some k => exact Nat.div_le_self n k.toNat

/-- One more run adds one success unless it fails. -/
theorem successes_succ (every : Option UInt64) (n : Nat) :
    successes every (n + 1) = successes every n + if FailsAt every (n + 1) then 0 else 1 := by
  have hle := failures_le every n
  unfold successes
  rw [failures_succ]
  split <;> omega

theorem successes_mono (every : Option UInt64) : Monotone (successes every) := by
  apply monotone_nat_of_le_succ
  intro n
  rw [successes_succ]
  exact Nat.le_add_right _ _

/-! ## Counts -/

/-- Settings of a source that has so many frames, each of them with data and a length. -/
structure Delivers (settings : SyntheticSettings) (limit : UInt64) : Prop where
  limit : settings.limit = some limit
  width : settings.width ≠ 0
  height : settings.height ≠ 0
  size : fullLength settings.width settings.height < 2 ^ 64

/-- The bytes of a frame. -/
def frameBytes (settings : SyntheticSettings) : Nat := settings.format.exactLength settings.width settings.height

variable {settings : SyntheticSettings} {limit : UInt64} {tensor : ByteArray} {every : Option UInt64}
  {acquired runs held : Nat} {feed : Feed}

/-- Source and model after some frames were acquired, some runs were made and some frames are held. -/
structure Feed.After (settings : SyntheticSettings) (limit : UInt64) (tensor : ByteArray)
    (every : Option UInt64) (acquired runs held : Nat) (feed : Feed) : Prop where
  width : feed.source.width = settings.width
  height : feed.source.height = settings.height
  format : feed.source.format = settings.format
  remaining : ∃ left : UInt64, feed.source.remaining = some left ∧ left.toNat + acquired = limit.toNat
  next : feed.source.next.toNat = acquired
  outstanding : feed.source.outstanding.toNat = held
  tensor : feed.model.tensor = tensor
  failEvery : feed.model.failEvery = every
  runs : feed.model.runs.toNat = runs

/-- A frame has data if its sides are not empty. -/
theorem Delivers.frameBytes_pos (h : Delivers settings limit) : 0 < frameBytes settings := by
  have hwidth : 0 < settings.width.toNat := Nat.pos_of_ne_zero fun hzero => h.width (UInt32.toNat_inj.1 hzero)
  have hheight : 0 < settings.height.toNat := Nat.pos_of_ne_zero fun hzero => h.height (UInt32.toNat_inj.1 hzero)
  have hpixels : 0 < settings.width.toNat * settings.height.toNat := Nat.mul_pos hwidth hheight
  unfold frameBytes PixelFormat.exactLength fullLength
  rw [Nat.mul_assoc]
  cases settings.format with
  | nv12 =>
    simp only [PixelFormat.share]
    omega
  | rgb =>
    simp only [PixelFormat.share]
    omega

namespace Feed

/-- A source and a model that have not been used. -/
theorem after_start (hframes : Delivers settings limit) (hevery : every ≠ some 0) :
    After settings limit tensor every 0 0 0 ⟨.ofSettings settings, .ofTensor tensor every⟩ := by
  refine ⟨rfl, rfl, rfl, ⟨limit, hframes.limit, rfl⟩, rfl, rfl, rfl, ?_, rfl⟩
  cases every with
  | none => rfl
  | some k =>
    have hpos : 0 < k := UInt64.pos_iff_ne_zero.2 fun h => hevery (h ▸ rfl)
    simp [Replay.ofTensor, Option.filter, hpos]

namespace After

/-- As long as not all frames have been acquired, the source makes the next one, if there is a block for it. -/
theorem acquire_eq (h : After settings limit tensor every acquired runs held feed) (hlt : acquired < limit.toNat)
    (hheld : held ≤ acquired) :
    feed.source.remaining ≠ some 0 ∧
      feed.source.acquire = (Frame.blank feed.source.next settings.width settings.height settings.format).map
        fun frame => some (frame, { feed.source with
          remaining := feed.source.remaining.map (· - 1)
          next := feed.source.next + 1
          outstanding := feed.source.outstanding + 1 }) := by
  obtain ⟨left, hremaining, hleft⟩ := h.remaining
  have hword := limit.toNat_lt
  have hnext := h.next
  have houtstanding := h.outstanding
  have hne : feed.source.remaining ≠ some 0 := by
    rw [hremaining]
    rintro ⟨⟩
    rw [show (0 : UInt64).toNat = 0 from rfl] at hleft
    omega
  rw [← h.width, ← h.height, ← h.format]
  exact ⟨hne, Synthetic.acquire_of_counted hne (by omega) (by omega)⟩

/-- There is a frame as long as not all have been acquired, and it has data. -/
theorem acquire_of_lt (h : After settings limit tensor every acquired runs held feed)
    (hframes : Delivers settings limit) (hblock : frameBytes settings ≤ greatestBlock)
    (hlt : acquired < limit.toNat) (hheld : held ≤ acquired) :
    ∃ frame source, feed.source.acquire = .ok (some (frame, source)) ∧ frame.data.size ≠ 0 ∧
      After settings limit tensor every (acquired + 1) runs (held + 1) ⟨source, feed.model⟩ := by
  obtain ⟨hne, hacquire⟩ := h.acquire_eq hlt hheld
  obtain ⟨left, hremaining, hleft⟩ := h.remaining
  have hword := limit.toNat_lt
  have hnext := h.next
  have houtstanding := h.outstanding
  rw [Frame.blank_eq_ok_iff.2 ⟨⟨hframes.size, hblock⟩, rfl⟩] at hacquire
  refine ⟨_, _, hacquire, ?_, h.width, h.height, h.format, ⟨left - 1, ?_, ?_⟩, ?_, ?_, h.tensor, h.failEvery, h.runs⟩
  · have hsize : (Frame.zeroed feed.source.next settings.width settings.height settings.format).data.size =
        frameBytes settings := Array.size_replicate
    rw [hsize]
    exact hframes.frameBytes_pos.ne'
  · rw [hremaining, Option.map_some]
  · have hpos : 0 < left.toNat := Nat.pos_of_ne_zero fun hzero =>
      hne (hremaining.trans (congrArg some (UInt64.toNat_inj.1 hzero)))
    have hsub : (left - 1).toNat = left.toNat - 1 := toNat_sub_one hpos
    omega
  · exact (toNat_add_one (by omega)).trans (congrArg (· + 1) hnext)
  · exact (toNat_add_one (by omega)).trans (congrArg (· + 1) houtstanding)

/-- A frame that no block of memory can hold breaks the program off. -/
theorem acquire_of_large (h : After settings limit tensor every acquired runs held feed)
    (hframes : Delivers settings limit) (hlarge : greatestBlock < frameBytes settings)
    (hlt : acquired < limit.toNat) (hheld : held ≤ acquired) : feed.source.acquire = .error .capacity := by
  have hblank : Frame.blank feed.source.next settings.width settings.height settings.format = .error .capacity := by
    rw [Frame.blank_eq_error_iff, if_pos hframes.size]
    exact ⟨hlarge, rfl⟩
  rw [(h.acquire_eq hlt hheld).2, hblank]
  rfl

/-- There is no frame when all have been acquired. -/
theorem acquire_of_eq (h : After settings limit tensor every limit.toNat runs held feed) :
    feed.source.acquire = .ok none := by
  obtain ⟨left, hremaining, hleft⟩ := h.remaining
  have hzero : left = 0 := UInt64.toNat_inj.1 (by simpa using hleft)
  exact Synthetic.acquire_of_exhausted (hremaining.trans (congrArg some hzero))

/-- A run is counted, and fails at its turn. -/
theorem infer (h : After settings limit tensor every acquired runs held feed)
    (hlt : runs < limit.toNat) :
    ∃ result model, feed.model.infer = .ok (result, model) ∧ result.toBool = !decide (FailsAt every (runs + 1)) ∧
      After settings limit tensor every acquired (runs + 1) held ⟨feed.source, model⟩ := by
  have hword := limit.toNat_lt
  have hfits : feed.model.runs.toNat + 1 < 2 ^ 64 := by
    rw [h.runs]
    omega
  have hcount : addChecked feed.model.runs 1 = .ok (feed.model.runs + 1) := if_pos hfits
  have hruns : (feed.model.runs + 1).toNat = runs + 1 := (toNat_add_one hfits).trans (congrArg (· + 1) h.runs)
  unfold Replay.infer
  rw [hcount]
  refine ⟨_, _, rfl, ?_, h.width, h.height, h.format, h.remaining, h.next, h.outstanding, h.tensor, h.failEvery, hruns⟩
  rw [h.failEvery]
  cases every with
  | none => simp [FailsAt, Except.toBool]
  | some k =>
    have hturn : ((feed.model.runs + 1) % k == 0) = decide (k.toNat ∣ runs + 1) := by
      rw [Bool.eq_iff_iff, beq_iff_eq, decide_eq_true_eq, ← UInt64.toNat_inj, UInt64.toNat_mod, hruns,
        Nat.dvd_iff_mod_eq_zero]
      rfl
    by_cases hfails : k.toNat ∣ runs + 1 <;> simp [FailsAt, Except.toBool, hturn, hfails]

/-- A frame is given back. -/
theorem release (h : After settings limit tensor every acquired runs (held + 1) feed) :
    After settings limit tensor every acquired runs held ⟨feed.source.release, feed.model⟩ := by
  have hless := feed.source.toNat_outstanding_release
  rw [h.outstanding] at hless
  rw [feed.source.release_eq]
  exact ⟨h.width, h.height, h.format, h.remaining, h.next, hless, h.tensor, h.failEvery, h.runs⟩

/-- To follow the rate changes no count. -/
theorem adaptRate (h : After settings limit tensor every acquired runs held feed)
    (spent : Time.Duration) :
    After settings limit tensor every acquired runs held
      ⟨feed.source.adaptRate spent, feed.model⟩ := by
  unfold Synthetic.adaptRate
  dsimp only
  split
  · exact ⟨h.width, h.height, h.format, h.remaining, h.next, h.outstanding, h.tensor, h.failEvery, h.runs⟩
  · exact h

end After

end Feed

end FrameDetect.Program
