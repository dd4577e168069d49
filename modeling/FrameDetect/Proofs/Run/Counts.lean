import FrameDetect.Proofs.Basic
import FrameDetect.Run.Periodic

/-!
# Counts of a run

The counts of a summary are words, and each outcome adds to them.  A count that no word can hold breaks the run off: that
of the cycles only if no limit ends the run before, and that of the detections only if there have been as many.
-/

namespace FrameDetect.Run

open FrameDetect.Cycle (Outcome Stage)
open FrameDetect.Detect (Detection)
open FrameDetect.Run.Periodic (Turn)

variable {p : Periodic} {s s' : Summary} {outcome : Outcome} {result : Except Cycle.Fault Outcome} {cause : Overflow}
  {cycles number : UInt64}

namespace Summary

theorem cycles_eq_ok_iff : s.cycles = .ok cycles ↔ cycles.toNat = s.published.toNat + s.skipped.toNat :=
  addChecked_eq_ok_iff

/-! ## Outcomes -/

/-- What one more published list changes. -/
theorem record_published {found : List Detection} (h : s.record (.published found) = .ok s') :
    s'.published.toNat = s.published.toNat + 1 ∧
      s'.detections.toNat = s.detections.toNat + (UInt64.ofNat found.length).toNat ∧
      s' = { s with published := s'.published, detections := s'.detections, last := found } := by
  obtain ⟨published, hpublished, h⟩ := exists_of_bind_eq_ok h
  obtain ⟨detections, hdetections, h⟩ := exists_of_bind_eq_ok h
  cases h
  exact ⟨addChecked_eq_ok_iff.1 hpublished, addChecked_eq_ok_iff.1 hdetections, rfl⟩

/-- What one more skipped cycle changes. -/
theorem record_skipped {stage : Stage} {reason : String} (h : s.record (.skipped stage reason) = .ok s') :
    s'.skipped.toNat = s.skipped.toNat + 1 ∧ s' = { s with skipped := s'.skipped } := by
  obtain ⟨skipped, hskipped, h⟩ := exists_of_bind_eq_ok h
  cases h
  exact ⟨addChecked_eq_ok_iff.1 hskipped, rfl⟩

/-- An outcome does not interrupt a run, and only the loss of the source is recorded as such. -/
theorem reasons_of_record (h : s.record outcome = .ok s') :
    s'.interrupted = s.interrupted ∧ (s'.sourceLost = true ↔ s.sourceLost = true ∨ outcome = .sourceLost) := by
  cases outcome with
  | published found =>
    obtain ⟨-, -, hrest⟩ := record_published h
    rw [hrest]
    simp
  | skipped stage reason =>
    obtain ⟨-, hrest⟩ := record_skipped h
    rw [hrest]
    simp
  | sourceLost =>
    cases h
    simp

/-- One outcome counts at most once. -/
theorem cycles_of_record (h : s.record outcome = .ok s') :
    s'.published.toNat + s'.skipped.toNat ≤ s.published.toNat + s.skipped.toNat + 1 := by
  cases outcome with
  | published found =>
    obtain ⟨hcount, -, hrest⟩ := record_published h
    rw [hrest]
    dsimp only
    omega
  | skipped stage reason =>
    obtain ⟨hcount, hrest⟩ := record_skipped h
    rw [hrest]
    dsimp only
    omega
  | sourceLost =>
    cases h
    dsimp only
    omega

/-- An outcome breaks a run off if there have been too many cycles or too many detections. -/
theorem record_eq_error (h : s.record outcome = .error cause) :
    cause = .sum ∧ (2 ^ 64 ≤ s.published.toNat + s.skipped.toNat + 1 ∨
      ∃ found, outcome = .published found ∧ 2 ^ 64 ≤ s.detections.toNat + found.length) := by
  cases outcome with
  | published found =>
    obtain hpublished | ⟨published, -, h⟩ := cases_of_bind_eq_error h
    · obtain ⟨hlarge, rfl⟩ := addChecked_one_eq_error_iff.1 hpublished
      exact ⟨rfl, .inl (by omega)⟩
    · obtain hdetections | ⟨detections, -, h⟩ := cases_of_bind_eq_error h
      · obtain ⟨hlarge, rfl⟩ := addChecked_eq_error_iff.1 hdetections
        have hlength : (UInt64.ofNat found.length).toNat ≤ found.length := by
          rw [UInt64.toNat_ofNat']
          exact Nat.mod_le _ _
        exact ⟨rfl, .inr ⟨found, rfl, Nat.le_trans hlarge (Nat.add_le_add_left hlength _)⟩⟩
      · cases h
  | skipped stage reason =>
    obtain hskipped | ⟨skipped, -, h⟩ := cases_of_bind_eq_error h
    · obtain ⟨hlarge, rfl⟩ := addChecked_one_eq_error_iff.1 hskipped
      exact ⟨rfl, .inl (by omega)⟩
    · cases h
  | sourceLost => cases h

theorem extend_error (fault : Cycle.Fault) : s.extend (.error fault) = .error (.cycle fault) := rfl

theorem extend_eq_ok_iff :
    s.extend result = .ok s' ↔ ∃ outcome, result = .ok outcome ∧ s.record outcome = .ok s' := by
  cases result with
  | error fault => exact iff_of_false nofun (by simp)
  | ok outcome =>
    cases hrecord : s.record outcome <;> simp [extend, Except.mapError, hrecord]

theorem extend_eq_error_iff {fault : Fault} :
    s.extend result = .error fault ↔
      (∃ broken, result = .error broken ∧ fault = .cycle broken) ∨
        ∃ outcome cause, result = .ok outcome ∧ s.record outcome = .error cause ∧ fault = .overflow cause := by
  cases result with
  | error broken => simp [extend, Except.mapError, eq_comm]
  | ok outcome =>
    cases hrecord : s.record outcome <;> simp [extend, Except.mapError, hrecord, eq_comm]

/-- The first outcome of a run breaks off nothing. -/
theorem exists_record_empty (outcome : Outcome) : ∃ s, empty.record outcome = .ok s := by
  cases outcome with
  | published found =>
    have hdetections : addChecked 0 (.ofNat found.length) = .ok (.ofNat found.length) := by
      rw [addChecked_eq_ok_iff]
      exact (Nat.zero_add _).symm
    refine ⟨⟨1, 0, .ofNat found.length, false, false, found⟩, ?_⟩
    unfold record
    dsimp only [empty]
    rw [hdetections]
    rfl
  | skipped stage reason => exact ⟨_, rfl⟩
  | sourceLost => exact ⟨_, rfl⟩

end Summary

/-! ## Turns -/

namespace Periodic

/-- The cycles of a summary can be counted, and the limit allows as many. -/
def Within (p : Periodic) (s : Summary) : Prop :=
  ∃ cycles, s.cycles = .ok cycles ∧ ∀ most, p.maxCycles = some most → cycles ≤ most

theorem within_empty (p : Periodic) : p.Within .empty :=
  ⟨0, rfl, fun _ _ => UInt64.zero_le⟩

theorem turn_of_cycles (h : s.cycles = .ok cycles) :
    p.turn s =
      if p.maxCycles.any (· ≤ cycles) then .ok (.complete cycles) else (addChecked cycles 1).map .cycle := by
  unfold turn
  rw [h, ok_bind]
  split
  · rfl
  · cases addChecked cycles 1 <;> rfl

/-- Enough cycles are done just when there are as many as the limit allows. -/
theorem turn_complete (hwithin : p.Within s) (h : p.turn s = .ok (.complete cycles)) :
    s.cycles = .ok cycles ∧ p.maxCycles = some cycles := by
  obtain ⟨done, hdone, hmost⟩ := hwithin
  rw [turn_of_cycles hdone] at h
  split at h
  next henough =>
    cases h
    obtain ⟨most, hmax, hle⟩ := (Option.any_eq_true ..).1 henough
    rw [decide_eq_true_eq] at hle
    exact ⟨hdone, hmax.trans (congrArg some (UInt64.le_antisymm hle (hmost most hmax)))⟩
  next =>
    obtain ⟨_, -, h⟩ := exists_of_map_eq_ok h
    cases h

/-- The next cycle can be counted, and the limit allows it. -/
theorem turn_cycle (hwithin : p.Within s) (h : p.turn s = .ok (.cycle number)) :
    number.toNat = s.published.toNat + s.skipped.toNat + 1 ∧ ∀ most, p.maxCycles = some most → number ≤ most := by
  obtain ⟨done, hdone, -⟩ := hwithin
  rw [turn_of_cycles hdone] at h
  split at h
  next => cases h
  next hfew =>
    obtain ⟨_, hnumber, h⟩ := exists_of_map_eq_ok h
    cases h
    have hcount : number.toNat = done.toNat + 1 := addChecked_eq_ok_iff.1 hnumber
    refine ⟨by rw [hcount, Summary.cycles_eq_ok_iff.1 hdone], fun most hmost => ?_⟩
    have hlt : done < most := by simpa [hmost] using hfew
    rw [UInt64.le_iff_toNat_le, hcount]
    exact UInt64.lt_iff_toNat_lt.1 hlt

/-- A run without a limit is broken off when the next cycle cannot be counted. -/
theorem turn_error (hwithin : p.Within s) (h : p.turn s = .error cause) :
    cause = .sum ∧ p.maxCycles = none ∧ s.published.toNat + s.skipped.toNat + 1 = 2 ^ 64 := by
  obtain ⟨done, hdone, hmost⟩ := hwithin
  rw [turn_of_cycles hdone] at h
  split at h
  next => cases h
  next hfew =>
    cases hnumber : addChecked done 1 with
    | ok number =>
      rw [hnumber] at h
      cases h
    | error other =>
      rw [hnumber] at h
      cases h
      obtain ⟨hlarge, rfl⟩ := addChecked_one_eq_error_iff.1 hnumber
      have hword := done.toNat_lt
      refine ⟨rfl, ?_, by rw [← Summary.cycles_eq_ok_iff.1 hdone]; omega⟩
      cases hmax : p.maxCycles with
      | none => rfl
      | some most =>
        have hlt : done < most := by simpa [hmax] using hfew
        have hmore := UInt64.lt_iff_toNat_lt.1 hlt
        have hend := most.toNat_lt
        omega

/-- A cycle that can be counted keeps the cycles within the limit. -/
theorem Within.record (hwithin : p.Within s) (hturn : p.turn s = .ok (.cycle number))
    (h : s.record outcome = .ok s') : p.Within s' := by
  obtain ⟨hnumber, hmost⟩ := turn_cycle hwithin hturn
  have hcycles := Summary.cycles_of_record h
  have hle : s'.published.toNat + s'.skipped.toNat ≤ number.toNat := by omega
  have hcount : (UInt64.ofNat (s'.published.toNat + s'.skipped.toNat)).toNat =
      s'.published.toNat + s'.skipped.toNat :=
    UInt64.toNat_ofNat_of_lt' (Nat.lt_of_le_of_lt hle number.toNat_lt)
  refine ⟨_, Summary.cycles_eq_ok_iff.2 hcount, fun most hmax => ?_⟩
  rw [UInt64.le_iff_toNat_le, hcount]
  exact Nat.le_trans hle (UInt64.le_iff_toNat_le.1 (hmost most hmax))

/-- A cycle that can be counted breaks a run off only by what it publishes. -/
theorem record_error_of_turn (hwithin : p.Within s) (hturn : p.turn s = .ok (.cycle number))
    (h : s.record outcome = .error cause) :
    cause = .sum ∧ ∃ found, outcome = .published found ∧ 2 ^ 64 ≤ s.detections.toNat + found.length := by
  obtain ⟨hcause, hlarge | hfound⟩ := Summary.record_eq_error h
  · obtain ⟨hnumber, -⟩ := turn_cycle hwithin hturn
    have hword := number.toNat_lt
    omega
  · exact ⟨hcause, hfound⟩

end Periodic

end FrameDetect.Run
