import FrameDetect.Machine
import FrameDetect.Proofs.Video.Frame
import FrameDetect.Video.Synthetic
import Mathlib.Data.List.Induction
import Mathlib.Data.List.Infix

/-!
# The frames of a synthetic source

A source is asked for frames and given frames back in any order.  It answers the first requests with frames, numbered
from zero on, and when its limit is reached it answers every further request with none and stays as it is.  What it
calls outstanding is what it has delivered and not got back, unless it gets back more than it has delivered.  A frame
that is too long for a block of memory, or whose number is too great for a word, breaks the program off.
-/

namespace FrameDetect.Video

/-- What is asked of a source. -/
inductive Request where
  | acquire
  | release
deriving DecidableEq

/-- The requests for frames. -/
def asked (requests : List Request) : Nat := requests.count .acquire

/-- The frames that are given back. -/
def released (requests : List Request) : Nat := requests.count .release

@[simp] theorem asked_nil : asked [] = 0 := rfl

@[simp] theorem released_nil : released [] = 0 := rfl

@[simp] theorem asked_concat_acquire (requests : List Request) : asked (requests ++ [.acquire]) = asked requests + 1 := by
  simp [asked]

@[simp] theorem asked_concat_release (requests : List Request) : asked (requests ++ [.release]) = asked requests := by
  simp [asked]

@[simp] theorem released_concat_acquire (requests : List Request) :
    released (requests ++ [.acquire]) = released requests := by
  simp [released]

@[simp] theorem released_concat_release (requests : List Request) :
    released (requests ++ [.release]) = released requests + 1 := by
  simp [released]

/-! ## Sources in use -/

/-- A source and what it has answered to the requests for frames, the first answer first. -/
structure Account where
  source : Synthetic
  answers : List (Option Frame)

namespace Account

/-- A source that has not been asked for anything. -/
def opening (settings : SyntheticSettings) : Account := ⟨.ofSettings settings, []⟩

/-- Deals with one request. -/
def serve (account : Account) : Request → Except Overflow Account
  | .acquire => do
    match ← account.source.acquire with
    | some (frame, source) => return ⟨source, account.answers ++ [some frame]⟩
    | none => return ⟨account.source, account.answers ++ [none]⟩
  | .release => return { account with source := account.source.release }

/-- A new source after some requests. -/
def after (settings : SyntheticSettings) (requests : List Request) : Except Overflow Account :=
  requests.foldlM serve (opening settings)

/-- The frames among the answers. -/
def frames (account : Account) : List Frame := account.answers.filterMap id

@[simp] theorem after_nil (settings : SyntheticSettings) : after settings [] = .ok (opening settings) := rfl

theorem after_concat (settings : SyntheticSettings) (requests : List Request) (request : Request) :
    after settings (requests ++ [request]) = (after settings requests).bind fun account => account.serve request := by
  rw [after, List.foldlM_append]
  simp only [List.foldlM_cons, List.foldlM_nil, bind_pure]
  rfl

end Account

/-! ## Limits -/

namespace SyntheticSettings

/-- How many frames there are for so many requests. -/
def granted (settings : SyntheticSettings) (requests : Nat) : Nat :=
  match settings.limit with
  | none => requests
  | some limit => min limit.toNat requests

/-- The frame of a number. -/
def frame (settings : SyntheticSettings) (number : Nat) : Frame :=
  .zeroed (UInt64.ofNat number) settings.width settings.height settings.format

/-- Why there cannot be so many frames, if so: each needs a length and a block of memory, and all are counted. -/
def obstacle? (settings : SyntheticSettings) (frames : Nat) : Option Overflow :=
  if frames = 0 then none
  else if 2 ^ 64 ≤ fullLength settings.width settings.height then some .product
  else if greatestBlock < settings.format.exactLength settings.width settings.height then some .capacity
  else if 2 ^ 64 ≤ frames then some .sum
  else none

@[simp] theorem granted_zero (settings : SyntheticSettings) : settings.granted 0 = 0 := by
  unfold granted
  split <;> simp

theorem granted_le (settings : SyntheticSettings) (requests : Nat) : settings.granted requests ≤ requests := by
  unfold granted
  split <;> omega

theorem granted_mono (settings : SyntheticSettings) {requests more : Nat} (h : requests ≤ more) :
    settings.granted requests ≤ settings.granted more := by
  unfold granted
  split <;> omega

/-- Whoever gets a frame on every request has got one on every request before. -/
theorem granted_eq_of_succ {settings : SyntheticSettings} {requests : Nat}
    (h : settings.granted (requests + 1) = requests + 1) : settings.granted requests = requests := by
  unfold granted at h ⊢
  split at h
  · rfl
  · omega

/-- What prevents some frames prevents more of them. -/
theorem obstacle?_mono {settings : SyntheticSettings} {frames more : Nat} {cause : Overflow}
    (h : settings.obstacle? frames = some cause) (hle : frames ≤ more) : settings.obstacle? more = some cause := by
  unfold obstacle? at h ⊢
  grind

/-- There can be one more frame whose number can be counted just if there is a frame of zeros. -/
theorem obstacle?_succ (settings : SyntheticSettings) {frames : Nat} (hcount : frames + 1 < 2 ^ 64) (sequence : UInt64) :
    settings.obstacle? (frames + 1) =
      match Frame.blank sequence settings.width settings.height settings.format with
      | .error cause => some cause
      | .ok _ => none := by
  rw [obstacle?, if_neg (Nat.succ_ne_zero frames)]
  cases hblank : Frame.blank sequence settings.width settings.height settings.format with
  | error cause =>
    have hcause := Frame.blank_eq_error_iff.1 hblank
    split at hcause
    next hfits =>
      rw [if_neg (Nat.not_le_of_lt hfits), if_pos hcause.1, hcause.2]
    next hlarge =>
      rw [if_pos (Nat.le_of_not_lt hlarge), hcause]
  | ok frame =>
    obtain ⟨⟨hfits, hblock⟩, -⟩ := Frame.blank_eq_ok_iff.1 hblank
    rw [if_neg (Nat.not_le_of_lt hfits), if_neg (Nat.not_lt_of_le hblock), if_neg (Nat.not_le_of_lt hcount)]

/-- A frame whose number cannot be counted is prevented by nothing else, as there have been others. -/
theorem obstacle?_of_uncounted {settings : SyntheticSettings} {frames : Nat} (h : settings.obstacle? frames = none)
    (hcount : 2 ^ 64 ≤ frames + 1) : settings.obstacle? (frames + 1) = some .sum := by
  unfold obstacle? at h ⊢
  grind

end SyntheticSettings

/-! ## Single requests -/

namespace Synthetic

variable {s : Synthetic}

/-- A source whose limit is reached has no frame. -/
theorem acquire_of_exhausted (h : s.remaining = some 0) : s.acquire = .ok none := by
  simp [acquire, h]
  rfl

/-- A source whose limit is not reached has a frame of zeros with the next number, if it can count it. -/
theorem acquire_of_counted (h : s.remaining ≠ some 0) (hnext : s.next.toNat + 1 < 2 ^ 64)
    (houtstanding : s.outstanding.toNat + 1 < 2 ^ 64) :
    s.acquire = (Frame.blank s.next s.width s.height s.format).map fun frame =>
      some (frame, { s with remaining := s.remaining.map (· - 1), next := s.next + 1, outstanding := s.outstanding + 1 }) := by
  have hcount : addChecked s.next 1 = .ok (s.next + 1) := if_pos hnext
  have hheld : addChecked s.outstanding 1 = .ok (s.outstanding + 1) := if_pos houtstanding
  rw [acquire, if_neg h, hcount, hheld]
  cases Frame.blank s.next s.width s.height s.format with
  | error => rfl
  | ok => rfl

theorem acquire_of_uncounted (h : s.remaining ≠ some 0) (hnext : 2 ^ 64 ≤ s.next.toNat + 1) :
    s.acquire = .error .sum := by
  rw [acquire, if_neg h, addChecked_one_eq_error_iff.2 ⟨hnext, rfl⟩]
  rfl

/-- One frame less is outstanding, if there is any. -/
theorem toNat_outstanding_release (s : Synthetic) : s.release.outstanding.toNat = s.outstanding.toNat - 1 := by
  unfold release
  split
  next hzero =>
    rw [hzero]
    rfl
  next hpos => exact toNat_sub_one (Nat.pos_of_ne_zero fun hzero => hpos (UInt64.toNat_inj.1 hzero))

/-- A frame that is given back changes nothing else. -/
theorem release_eq (s : Synthetic) : s.release = { s with outstanding := s.release.outstanding } := by
  unfold release
  split <;> rfl

end Synthetic

variable {settings : SyntheticSettings} {requests : List Request} {account : Account}

/-- A source and its answers after some requests.  The frames that are left and those that there were for the requests
make up the limit. -/
structure Account.Sound (settings : SyntheticSettings) (requests : List Request) (account : Account) : Prop where
  answers : account.answers =
    ((List.range (settings.granted (asked requests))).map fun number => some (settings.frame number)) ++
      List.replicate (asked requests - settings.granted (asked requests)) none
  width : account.source.width = settings.width
  height : account.source.height = settings.height
  format : account.source.format = settings.format
  remaining : account.source.remaining.map (fun left => left.toNat + settings.granted (asked requests)) =
    settings.limit.map UInt64.toNat
  next : account.source.next.toNat = settings.granted (asked requests)
  /-- Also where more frames are given back than there were. -/
  outstanding_le : account.source.outstanding.toNat ≤ settings.granted (asked requests)
  outstanding : (∀ before, before <+: requests → released before ≤ settings.granted (asked before)) →
    account.source.outstanding.toNat + released requests = settings.granted (asked requests)

namespace Account.Sound

theorem opening (settings : SyntheticSettings) : Sound settings [] (opening settings) := by
  constructor
  · simp [Account.opening]
  · rfl
  · rfl
  · rfl
  · simp [Account.opening, Synthetic.ofSettings]
  · simp [Account.opening, Synthetic.ofSettings]
  · simp [Account.opening, Synthetic.ofSettings]
  · simp [Account.opening, Synthetic.ofSettings]

/-- One more request for a frame is granted just if the limit is not reached. -/
theorem granted_succ (h : Sound settings requests account) :
    settings.granted (asked requests + 1) =
      if account.source.remaining = some 0 then settings.granted (asked requests) else asked requests + 1 := by
  have hremaining := h.remaining
  unfold SyntheticSettings.granted at hremaining ⊢
  cases hlimit : settings.limit with
  | none =>
    simp [hlimit] at hremaining
    simp [hremaining]
  | some limit =>
    simp only [hlimit, Option.map_some, Option.map_eq_some_iff] at hremaining
    obtain ⟨left, hleft, hsum⟩ := hremaining
    have hzero : left = 0 ↔ left.toNat = 0 := by simp [← UInt64.toNat_inj]
    simp only [hleft, Option.some.injEq, hzero]
    split <;> omega

/-- A request that finds no frame leaves the source as it is. -/
theorem concat_refused (h : Sound settings requests account) (hnone : account.source.remaining = some 0) :
    Sound settings (requests ++ [.acquire]) { account with answers := account.answers ++ [none] } := by
  have hgranted := h.granted_succ
  rw [if_pos hnone] at hgranted
  constructor
  · have hle := SyntheticSettings.granted_le settings (asked requests)
    have hmore : asked requests + 1 - settings.granted (asked requests) =
        asked requests - settings.granted (asked requests) + 1 := by omega
    simp [hgranted, h.answers, hmore, List.replicate_succ']
  · exact h.width
  · exact h.height
  · exact h.format
  · simpa [hgranted] using h.remaining
  · simpa [hgranted] using h.next
  · simpa [hgranted] using h.outstanding_le
  · intro hprefixes
    simpa [hgranted] using h.outstanding fun before hbefore => hprefixes before (hbefore.trans (List.prefix_append ..))

/-- A request that finds a frame gets the one of the next number. -/
theorem concat_granted (h : Sound settings requests account) (hsome : account.source.remaining ≠ some 0)
    (hcount : settings.granted (asked requests) + 1 < 2 ^ 64) :
    Sound settings (requests ++ [.acquire])
      { source := { account.source with
          remaining := account.source.remaining.map (· - 1)
          next := account.source.next + 1
          outstanding := account.source.outstanding + 1 }
        answers := account.answers ++ [some (settings.frame (settings.granted (asked requests)))] } := by
  have hgranted := h.granted_succ
  rw [if_neg hsome] at hgranted
  have hasked := SyntheticSettings.granted_eq_of_succ hgranted
  have hremaining := h.remaining
  have hheld := h.outstanding_le
  have hnext : (account.source.next + 1).toNat = account.source.next.toNat + 1 := toNat_add_one (h.next ▸ hcount)
  have houtstanding : (account.source.outstanding + 1).toNat = account.source.outstanding.toNat + 1 :=
    toNat_add_one (Nat.lt_of_le_of_lt (Nat.succ_le_succ hheld) hcount)
  rw [hasked] at hremaining hheld
  constructor
  · simp [hgranted, h.answers, hasked, List.range_succ]
  · exact h.width
  · exact h.height
  · exact h.format
  · cases hr : account.source.remaining with
    | none => simpa [hr] using hremaining
    | some left =>
      have hpos : 0 < left.toNat := by
        apply Nat.pos_of_ne_zero
        intro hzero
        exact hsome (hr.trans (congrArg some (UInt64.toNat_inj.1 hzero)))
      have hone : (left - 1).toNat = left.toNat - 1 := toNat_sub_one hpos
      rw [← hremaining]
      simp [hr, hgranted, hone]
      omega
  · simp only [hnext, asked_concat_acquire, hgranted, h.next, hasked]
  · simpa only [houtstanding, asked_concat_acquire, hgranted] using Nat.succ_le_succ hheld
  · intro hprefixes
    have hbefore := h.outstanding fun before hbefore => hprefixes before (hbefore.trans (List.prefix_append ..))
    simp only [houtstanding, asked_concat_acquire, released_concat_acquire, hgranted]
    omega

/-- A frame that is given back is taken off those that are outstanding, if there are any. -/
theorem concat_release (h : Sound settings requests account) :
    Sound settings (requests ++ [.release]) { account with source := account.source.release } := by
  have hless := account.source.toNat_outstanding_release
  have hheld := h.outstanding_le
  rw [account.source.release_eq]
  constructor
  · simpa using h.answers
  · exact h.width
  · exact h.height
  · exact h.format
  · simpa using h.remaining
  · simpa using h.next
  · simp only [hless, asked_concat_release]
    omega
  · intro hprefixes
    have hbefore := h.outstanding fun before hbefore => hprefixes before (hbefore.trans (List.prefix_append ..))
    have hall := hprefixes _ List.prefix_rfl
    simp only [hless, asked_concat_release, released_concat_release] at hall ⊢
    omega

/-- What one more request for a frame comes to. -/
theorem serve_acquire (h : Sound settings requests account)
    (hobstacle : settings.obstacle? (settings.granted (asked requests)) = none) :
    match settings.obstacle? (settings.granted (asked requests + 1)) with
    | some cause => account.serve .acquire = .error cause
    | none => ∃ next, account.serve .acquire = .ok next ∧ Sound settings (requests ++ [.acquire]) next := by
  by_cases hexhausted : account.source.remaining = some 0
  · rw [h.granted_succ, if_pos hexhausted, hobstacle]
    exact ⟨_, by rw [serve, Synthetic.acquire_of_exhausted hexhausted]; rfl, h.concat_refused hexhausted⟩
  · have hgranted := h.granted_succ
    rw [if_neg hexhausted] at hgranted
    have hasked := SyntheticSettings.granted_eq_of_succ hgranted
    have hnumber : UInt64.ofNat (settings.granted (asked requests)) = account.source.next := by
      rw [← h.next, UInt64.ofNat_toNat]
    rw [hgranted, ← hasked]
    by_cases hcount : settings.granted (asked requests) + 1 < 2 ^ 64
    · have hnext : account.source.next.toNat + 1 < 2 ^ 64 := h.next ▸ hcount
      have hheld : account.source.outstanding.toNat + 1 < 2 ^ 64 :=
        Nat.lt_of_le_of_lt (Nat.succ_le_succ h.outstanding_le) hcount
      rw [SyntheticSettings.obstacle?_succ settings hcount account.source.next, serve,
        Synthetic.acquire_of_counted hexhausted hnext hheld, ← h.width, ← h.height, ← h.format]
      cases hblank : Frame.blank account.source.next account.source.width account.source.height
        account.source.format with
      | error cause => rfl
      | ok frame =>
        obtain ⟨-, rfl⟩ := Frame.blank_eq_ok_iff.1 hblank
        have hframe : Frame.zeroed account.source.next account.source.width account.source.height
            account.source.format = settings.frame (settings.granted (asked requests)) := by
          rw [SyntheticSettings.frame, hnumber, h.width, h.height, h.format]
        rw [hframe]
        exact ⟨_, rfl, h.concat_granted hexhausted hcount⟩
    · have hnext : 2 ^ 64 ≤ account.source.next.toNat + 1 := h.next ▸ Nat.le_of_not_lt hcount
      rw [SyntheticSettings.obstacle?_of_uncounted hobstacle (Nat.le_of_not_lt hcount), serve,
        Synthetic.acquire_of_uncounted hexhausted hnext]
      rfl

end Account.Sound

/-- Requests in any order are answered and counted soundly, unless there is an obstacle to the frames for them. -/
theorem Account.after_eq (settings : SyntheticSettings) (requests : List Request) :
    match settings.obstacle? (settings.granted (asked requests)) with
    | some cause => after settings requests = .error cause
    | none => ∃ account, after settings requests = .ok account ∧ Sound settings requests account := by
  induction requests using List.reverseRecOn with
  | nil =>
    rw [asked_nil, SyntheticSettings.granted_zero]
    exact ⟨_, rfl, .opening settings⟩
  | append_singleton requests request ih =>
    rw [after_concat]
    cases hobstacle : settings.obstacle? (settings.granted (asked requests)) with
    | some cause =>
      have hle : settings.granted (asked requests) ≤ settings.granted (asked (requests ++ [request])) := by
        apply SyntheticSettings.granted_mono
        cases request <;> simp
      rw [hobstacle] at ih
      rw [SyntheticSettings.obstacle?_mono hobstacle hle, ih]
      rfl
    | none =>
      rw [hobstacle] at ih
      obtain ⟨account, hafter, hsound⟩ := ih
      rw [hafter]
      cases request with
      | acquire =>
        rw [asked_concat_acquire]
        exact hsound.serve_acquire hobstacle
      | release =>
        rw [asked_concat_release, hobstacle]
        exact ⟨_, rfl, hsound.concat_release⟩

/-- Whatever there is after some requests is sound. -/
theorem Account.sound_of_after (h : Account.after settings requests = .ok account) : Sound settings requests account := by
  have hafter := Account.after_eq settings requests
  split at hafter
  · exact nomatch h.symm.trans hafter
  · obtain ⟨_, hafter, hsound⟩ := hafter
    cases h.symm.trans hafter
    exact hsound

/-- Requests that can all be served can be served up to any of them. -/
theorem Account.exists_after_of_prefix (h : Account.after settings requests = .ok account) {before : List Request}
    (hbefore : before <+: requests) : ∃ earlier, Account.after settings before = .ok earlier := by
  obtain ⟨rest, rfl⟩ := hbefore
  rw [after, List.foldlM_append] at h
  obtain ⟨earlier, hearlier, -⟩ := exists_of_bind_eq_ok h
  exact ⟨earlier, hearlier⟩

theorem Account.Sound.frames_eq (h : Sound settings requests account) :
    account.frames = (List.range (settings.granted (asked requests))).map settings.frame := by
  simp [Account.frames, h.answers, List.filterMap_map]

/-- That there is no frame is reported and changes nothing. -/
theorem Synthetic.deliver_of_none {s : Synthetic} (h : s.acquire = .ok none) (machine : Machine) :
    ((s.deliver : StateM Machine _) machine).1 = .ok (none, s) := by
  unfold deliver
  rw [h]
  rfl

/-- A frame of zeros with its number, of the size and the format that are set. -/
structure SyntheticSettings.Numbers (settings : SyntheticSettings) (number : Nat) (frame : Frame) : Prop where
  sequence : frame.sequence.toNat = number
  width : frame.width = settings.width
  height : frame.height = settings.height
  format : frame.format = settings.format
  data : frame.data.data = Array.replicate (settings.format.exactLength settings.width settings.height) 0

theorem SyntheticSettings.numbers_frame (settings : SyntheticSettings) {number : Nat} (hnumber : number < 2 ^ 64) :
    settings.Numbers number (settings.frame number) :=
  ⟨UInt64.toNat_ofNat_of_lt' hnumber, rfl, rfl, rfl, rfl⟩

/-- The frames of a source are numbered from zero on, and there is one for each request until the limit is reached.
From then on all requests are in vain and change nothing.  As long as no more frames are given back than there were,
those that are outstanding are known.  All this holds just if there is no obstacle to as many frames as are granted;
else the program breaks off. -/
theorem requests_are_accounted_for (settings : SyntheticSettings) (requests : List Request) :
    match settings.obstacle? (settings.granted (asked requests)) with
    | some cause => Account.after settings requests = .error cause
    | none =>
      ∃ account, Account.after settings requests = .ok account ∧
        (∀ number frame, account.frames[number]? = some frame → settings.Numbers number frame) ∧
        account.frames.length = settings.granted (asked requests) ∧
        account.answers =
          account.frames.map some ++ List.replicate (asked requests - settings.granted (asked requests)) none ∧
        (account.source.acquire = .ok none → ∀ machine : Machine,
          ((account.source.deliver : StateM Machine _) machine).1 = .ok (none, account.source)) ∧
        ((∀ before earlier, before <+: requests → Account.after settings before = .ok earlier →
            released before ≤ earlier.frames.length) →
          ∀ before, before <+: requests → ∃ earlier, Account.after settings before = .ok earlier ∧
            earlier.source.outstanding.toNat + released before = earlier.frames.length) := by
  have hafter := Account.after_eq settings requests
  split
  next cause hobstacle =>
    rw [hobstacle] at hafter
    exact hafter
  next hobstacle =>
    rw [hobstacle] at hafter
    obtain ⟨account, hafter, hsound⟩ := hafter
    have hlength {before : List Request} {earlier : Account} (h : Account.after settings before = .ok earlier) :
        earlier.frames.length = settings.granted (asked before) := by
      rw [(Account.sound_of_after h).frames_eq, List.length_map, List.length_range]
    refine ⟨account, hafter, ?_, hlength hafter, ?_, fun hnone => Synthetic.deliver_of_none hnone, ?_⟩
    · intro number frame hframe
      rw [hsound.frames_eq] at hframe
      simp only [List.getElem?_map, Option.map_eq_some_iff] at hframe
      obtain ⟨index, hindex, rfl⟩ := hframe
      obtain ⟨hnumber, hindex⟩ := List.getElem?_eq_some_iff.1 hindex
      rw [List.getElem_range] at hindex
      rw [List.length_range, ← hsound.next] at hnumber
      rw [← hindex]
      exact settings.numbers_frame (hnumber.trans account.source.next.toNat_lt)
    · rw [hsound.frames_eq, hsound.answers, List.map_map]
      rfl
    · intro hprefixes before hbefore
      obtain ⟨earlier, hearlier⟩ := Account.exists_after_of_prefix hafter hbefore
      refine ⟨earlier, hearlier, ?_⟩
      rw [hlength hearlier]
      apply (Account.sound_of_after hearlier).outstanding
      intro first hfirst
      obtain ⟨state, hstate⟩ := Account.exists_after_of_prefix hearlier hfirst
      rw [← hlength hstate]
      exact hprefixes first state (hfirst.trans hbefore) hstate

/-- Of three requests to a source of two frames the last is in vain, and one frame is held in the end. -/
theorem requests_are_accounted_for_twoFrames :
    ∃ account, Account.after ⟨4, 4, .rgb, some 2⟩ [.acquire, .release, .acquire, .acquire] = .ok account ∧
      (∀ frame, account.frames[1]? = some frame → frame.sequence.toNat = 1 ∧ frame.data.size = 48) ∧
      account.answers.getLast? = some none ∧ account.source.outstanding.toNat = 1 := by
  have haccount := requests_are_accounted_for ⟨4, 4, .rgb, some 2⟩ [.acquire, .release, .acquire, .acquire]
  obtain ⟨account, hafter, hnumbers, hlength, hanswers, -, houtstanding⟩ := haccount
  refine ⟨account, hafter, fun frame hframe => ?_, ?_, ?_⟩
  · have hnumbered := hnumbers 1 frame hframe
    exact ⟨hnumbered.sequence, (congrArg Array.size hnumbered.data).trans Array.size_replicate⟩
  · rw [hanswers]
    simp [asked, SyntheticSettings.granted]
  · have hgranted : ∀ before ∈ [Request.acquire, .release, .acquire, .acquire].inits,
        released before ≤ SyntheticSettings.granted ⟨4, 4, .rgb, some 2⟩ (asked before) := by decide +kernel
    have hreleased : ∀ before earlier, before <+: [Request.acquire, .release, .acquire, .acquire] →
        Account.after ⟨4, 4, .rgb, some 2⟩ before = .ok earlier → released before ≤ earlier.frames.length := by
      intro before earlier hbefore hearlier
      rw [(Account.sound_of_after hearlier).frames_eq, List.length_map, List.length_range]
      exact hgranted before ((List.mem_inits ..).2 hbefore)
    obtain ⟨earlier, hearlier, hcount⟩ := houtstanding hreleased _ List.prefix_rfl
    cases hearlier.symm.trans hafter
    rw [hlength] at hcount
    simpa [asked, released, SyntheticSettings.granted] using hcount

/-- A source of frames that are too long for a block of memory breaks off at the first request, although a word can hold
three bytes for each pixel. -/
theorem long_frames_break_off :
    3 * (4294967295 : UInt32).toNat * (715827883 : UInt32).toNat < 2 ^ 64 ∧
      Account.after ⟨4294967295, 715827883, .rgb, none⟩ [.acquire] = .error .capacity := by
  have hobstacle : SyntheticSettings.obstacle? ⟨4294967295, 715827883, .rgb, none⟩
      (SyntheticSettings.granted ⟨4294967295, 715827883, .rgb, none⟩ (asked [.acquire])) = some .capacity := by decide
  have hafter := Account.after_eq ⟨4294967295, 715827883, .rgb, none⟩ [.acquire]
  rw [hobstacle] at hafter
  exact ⟨by decide, hafter⟩

end FrameDetect.Video
