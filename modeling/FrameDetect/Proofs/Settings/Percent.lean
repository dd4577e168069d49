import FrameDetect.Proofs.Number.Closest
import FrameDetect.Proofs.Number.Indeterminate
import FrameDetect.Proofs.Number.Whole
import FrameDetect.Proofs.Settings.Checked

/-!
# Percentages as thresholds

A percentage is rounded twice before it is checked: as a single precision number, and as a hundredth of it.  Both
steps keep the order of integers, so that no percentage beyond 0 or 100 comes between zero and one, and none from 0 to
100 leaves that range.
-/

namespace FrameDetect.Settings

open FrameDetect.Number

/-! ## Hundredths -/

/-- The integers that are taken as percentages. -/
def InHundred (n : ℤ) : Prop := 0 ≤ n ∧ n ≤ 100

theorem hasValue_hundred : HasValue 100 100 := by
  have h : (100 : Float32).toModel.unpack = .finite .positive 13107200 (-17) (by decide) := rfl
  exact hasValue_of_unpack_positive h (by norm_num)

/-- Rounding never turns two percentages around. -/
theorem percent_mono {m n : ℤ} (h : m ≤ n) : percent m ≤ percent n := by
  have hwhole : Float32.ofInt m ≤ Float32.ofInt n := by
    obtain ⟨hm, hvaluem⟩ := value_ofInt m
    obtain ⟨hn, hvaluen⟩ := value_ofInt n
    rw [le_iff_value, hvaluem, hvaluen]
    exact ⟨hm, hn, rounded_mono (Int.cast_le.2 h)⟩
  exact div_le_div_positive hwhole hasValue_hundred (by norm_num)

/-- No percentage comes between zero and one but those from 0 to 100. -/
theorem inUnit_percent_iff (n : ℤ) : InUnit (percent n) ↔ InHundred n := by
  have hzero : percent 0 = 0 := by decide +kernel
  have hone : percent 100 = 1 := by decide +kernel
  have hbelow : ¬0 ≤ percent (-1) := by decide +kernel
  have habove : ¬percent 101 ≤ 1 := by decide +kernel
  constructor
  · rintro ⟨hlow, hhigh⟩
    constructor
    · by_contra hneg
      exact hbelow (le_trans_le hlow (percent_mono (by omega)))
    · by_contra hlarge
      exact habove (le_trans_le (percent_mono (by omega)) hhigh)
  · rintro ⟨hlow, hhigh⟩
    exact ⟨hzero ▸ percent_mono hlow, hone ▸ percent_mono hhigh⟩

theorem abs_hundredth_le {n : ℤ} (h : InHundred n) : |(n : ℝ) / 100| ≤ 1 := by
  have hlow : (0 : ℝ) ≤ n := by exact_mod_cast h.1
  have hhigh : (n : ℝ) ≤ 100 := by exact_mod_cast h.2
  rw [abs_of_nonneg (by positivity)]
  linarith

/-- What is at most 100 is exact before it is divided. -/
theorem hasValue_percent {n : ℤ} (h : InHundred n) : HasValue (percent n) (nearest ((n : ℝ) / 100)) := by
  have hsmall : |n| ≤ 2 ^ 24 := by
    rw [abs_of_nonneg h.1]
    exact h.2.trans (by norm_num)
  exact (hasValue_ofInt hsmall).div hasValue_hundred (by norm_num) ((abs_hundredth_le h).trans (by norm_num))

theorem abs_nearest_hundredth_sub_le {n : ℤ} (h : InHundred n) : |nearest ((n : ℝ) / 100) - n / 100| ≤ 1 / 1000 :=
  (abs_nearest_sub_le_of_abs_le (abs_hundredth_le h)).trans (by norm_num)

/-- Rounding moves hundredths by less than what lies between them. -/
theorem percent_lt_percent {m n : ℤ} (hm : InHundred m) (hn : InHundred n) (h : m < n) : percent m < percent n := by
  have hbelow := (abs_le.1 (abs_nearest_hundredth_sub_le hm)).2
  have habove := (abs_le.1 (abs_nearest_hundredth_sub_le hn)).1
  have hstep : (m : ℝ) + 1 ≤ n := by exact_mod_cast h
  rw [(hasValue_percent hm).lt_iff (hasValue_percent hn)]
  linarith

/-- Percentages and the thresholds that they stand for are in the same order. -/
theorem lt_iff_percent_lt {m n : ℤ} (hm : InHundred m) (hn : InHundred n) : m < n ↔ percent m < percent n := by
  refine ⟨percent_lt_percent hm hn, fun h => ?_⟩
  by_contra hge
  exact (not_lt_iff (hasValue_percent hm).isNaN (hasValue_percent hn).isNaN).2 (percent_mono (not_lt.1 hge)) h

/-! ## Thresholds from percentages -/

theorem ofPercent_eq_ok_iff {c o : ℤ} {t : Thresholds} :
    Thresholds.ofPercent c o = .ok t ↔ (InHundred c ∧ InHundred o) ∧ t = ⟨percent c, percent o⟩ := by
  rw [Thresholds.ofPercent, ofNumbers_eq_ok_iff, inUnit_percent_iff, inUnit_percent_iff]

/-- Thresholds come from percentages between 0 and 100 and from no others.  They are the numbers closest to the
hundredths and in the order of the percentages, and of two percentages out of range the confidence is reported. -/
theorem percentages_reach_up_to_hundred (c o : ℤ) :
    ((∃ t, Thresholds.ofPercent c o = .ok t) ↔ InHundred c ∧ InHundred o) ∧
      (∀ t, Thresholds.ofPercent c o = .ok t →
        IsClosest t.confidence ((c : ℝ) / 100) ∧ IsClosest t.overlap ((o : ℝ) / 100) ∧
          ∀ c' o' t', Thresholds.ofPercent c' o' = .ok t' →
            (c < c' ↔ t.confidence < t'.confidence) ∧ (o < o' ↔ t.overlap < t'.overlap)) ∧
      ∀ fault, Thresholds.ofPercent c o = .error fault ↔
        ¬InHundred c ∧ fault = .outOfRange .confidence (percent c) ∨
          InHundred c ∧ ¬InHundred o ∧ fault = .outOfRange .overlap (percent o) := by
  refine ⟨⟨?_, fun h => ⟨_, ofPercent_eq_ok_iff.2 ⟨h, rfl⟩⟩⟩, ?_, fun fault => ?_⟩
  · rintro ⟨t, ht⟩
    exact (ofPercent_eq_ok_iff.1 ht).1
  · intro t ht
    obtain ⟨⟨hc, ho⟩, rfl⟩ := ofPercent_eq_ok_iff.1 ht
    refine ⟨(hasValue_percent hc).isClosest, (hasValue_percent ho).isClosest, ?_⟩
    intro c' o' t' ht'
    obtain ⟨⟨hc', ho'⟩, rfl⟩ := ofPercent_eq_ok_iff.1 ht'
    exact ⟨lt_iff_percent_lt hc hc', lt_iff_percent_lt ho ho'⟩
  · rw [Thresholds.ofPercent, ofNumbers_eq_error_iff, inUnit_percent_iff, inUnit_percent_iff]

end FrameDetect.Settings
