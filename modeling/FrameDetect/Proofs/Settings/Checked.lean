import FrameDetect.Proofs.Number.Comparison
import FrameDetect.Settings.Thresholds

/-!
# Thresholds that passed their check

Both thresholds are numbers from zero to one, and no other numbers become thresholds.  The confidence is looked at
first.
-/

namespace FrameDetect.Number

variable {x y : Float32}

/-- A number from zero to one. -/
def InUnit (x : Float32) : Prop := 0 ≤ x ∧ x ≤ 1

theorem isUnit_iff : isUnit x = true ↔ InUnit x := by
  simp [isUnit, InUnit]

theorem InUnit.isNaN (h : InUnit x) : x.isNaN = false := (not_isNaN_of_le h.1).2

end FrameDetect.Number

namespace FrameDetect.Settings

open FrameDetect.Number

variable {x confidence overlap : Float32} {t : Thresholds} {fault : Fault}

theorem checkUnit_of_inUnit (threshold : Threshold) (h : InUnit x) : checkUnit threshold x = .ok x :=
  if_pos (isUnit_iff.2 h)

theorem checkUnit_of_not_inUnit (threshold : Threshold) (h : ¬InUnit x) :
    checkUnit threshold x = .error (.outOfRange threshold x) :=
  if_neg (mt isUnit_iff.1 h)

theorem ofNumbers_eq_ok_iff :
    Thresholds.ofNumbers confidence overlap = .ok t ↔
      (InUnit confidence ∧ InUnit overlap) ∧ t = ⟨confidence, overlap⟩ := by
  unfold Thresholds.ofNumbers
  by_cases hc : InUnit confidence
  · rw [checkUnit_of_inUnit _ hc]
    by_cases ho : InUnit overlap
    · rw [checkUnit_of_inUnit _ ho, and_iff_right ⟨hc, ho⟩]
      exact ⟨fun h => (Except.ok.inj h).symm, fun h => congrArg Except.ok h.symm⟩
    · rw [checkUnit_of_not_inUnit _ ho]
      exact ⟨nofun, fun h => absurd h.1.2 ho⟩
  · rw [checkUnit_of_not_inUnit _ hc]
    exact ⟨nofun, fun h => absurd h.1.1 hc⟩

/-- Of two numbers that are out of range the confidence is reported. -/
theorem ofNumbers_eq_error_iff :
    Thresholds.ofNumbers confidence overlap = .error fault ↔
      ¬InUnit confidence ∧ fault = .outOfRange .confidence confidence ∨
        InUnit confidence ∧ ¬InUnit overlap ∧ fault = .outOfRange .overlap overlap := by
  unfold Thresholds.ofNumbers
  by_cases hc : InUnit confidence
  · rw [checkUnit_of_inUnit _ hc]
    by_cases ho : InUnit overlap
    · rw [checkUnit_of_inUnit _ ho]
      simp only [hc, ho, not_true_eq_false, false_and, and_false, or_false, iff_false]
      exact nofun
    · rw [checkUnit_of_not_inUnit _ ho]
      simp only [hc, ho, not_true_eq_false, not_false_eq_true, false_and, true_and, false_or]
      exact ⟨fun h => (Except.error.inj h).symm, fun h => congrArg Except.error h.symm⟩
  · rw [checkUnit_of_not_inUnit _ hc]
    simp only [hc, not_false_eq_true, true_and, false_and, or_false]
    exact ⟨fun h => (Except.error.inj h).symm, fun h => congrArg Except.error h.symm⟩

/-- Thresholds are numbers from zero to one. -/
structure Thresholds.Checked (t : Thresholds) : Prop where
  confidence : InUnit t.confidence
  overlap : InUnit t.overlap

theorem Thresholds.checked_of_ofNumbers (h : Thresholds.ofNumbers confidence overlap = .ok t) : t.Checked := by
  obtain ⟨⟨hc, ho⟩, rfl⟩ := ofNumbers_eq_ok_iff.1 h
  exact ⟨hc, ho⟩

end FrameDetect.Settings
