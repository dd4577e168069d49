import FrameDetect.Proofs.Number.Value

/-!
# Rounding computes nearest numbers

Rounding shifts a mantissa to the right, one digit at a time, and keeps in two bits what it needs to know
of the digits that fall out.  The result is the nearest number with 24 digits.
-/

namespace FrameDetect.Number

open Float.Model (Format UnpackedFloat totalExponent)
open Float.Model.UnpackedFloat

variable {em : ExtendedMantissa} {x y : ℝ}

/-! ## Mantissas with residual bits -/

theorem represents_exact (m : ℕ) : Represents (.ofMantissaAndAccuracy m .exact) m := rfl

theorem Represents.bounds (h : Represents em y) : em.mantissa ≤ y ∧ y < em.mantissa + 1 := by
  obtain ⟨m, _ | _, _ | _⟩ := em <;> simp only [Represents] at h ⊢ <;>
    constructor <;> linarith

/-- Rounding by the residual bits is rounding of the real number. -/
theorem Represents.roundedMantissa_eq (h : Represents em y) : em.roundedMantissa = halfEven y := by
  obtain ⟨m, _ | _, _ | _⟩ := em <;> simp only [Represents] at h
  · rw [h, halfEven_natCast]
    rfl
  · exact (halfEven_of_lt h.1.le h.2).symm
  · exact (halfEven_of_eq h).symm
  · exact (halfEven_of_gt h.1 h.2).symm

/-- The residual bits still tell where the number lies when a digit falls out. -/
theorem Represents.shiftRightOne (h : Represents em y) : Represents em.shiftRightOne (y / 2) := by
  obtain ⟨m, roundBit, stickyBit⟩ := em
  have hdigit : (m : ℝ) = 2 * (m / 2 : ℕ) + (m % 2 : ℕ) := by exact_mod_cast (Nat.div_add_mod m 2).symm
  rcases Nat.mod_two_eq_zero_or_one m with heven | hodd
  · have hbit : (m % 2 != 0) = false := by rw [heven]; rfl
    rw [heven, Nat.cast_zero] at hdigit
    cases roundBit <;> cases stickyBit <;>
      simp only [Represents, ExtendedMantissa.shiftRightOne, hbit, Bool.or_self, Bool.or_true,
        Bool.or_false] at h ⊢
    · linarith
    all_goals constructor <;> linarith
  · have hbit : (m % 2 != 0) = true := by rw [hodd]; rfl
    rw [hodd, Nat.cast_one] at hdigit
    cases roundBit <;> cases stickyBit <;>
      simp only [Represents, ExtendedMantissa.shiftRightOne, hbit, Bool.or_self, Bool.or_true,
        Bool.or_false] at h ⊢
    · linarith
    all_goals constructor <;> linarith

theorem Represents.shiftRight (h : Represents em y) (n : ℕ) : Represents (em >>> n) (y / 2 ^ n) := by
  change Represents (n.repeat ExtendedMantissa.shiftRightOne em) _
  induction n with
  | zero => simpa [Nat.repeat] using h
  | succ n ih =>
    rw [pow_succ, ← div_div]
    exact ih.shiftRightOne

/-! ## The exponent that rounding aims at -/

theorem targetExponent_eq (m : ℕ) (e : ℤ) :
    Format.binary32.targetExponent (totalExponent m e) = max (m.log2 + e - 23) (-149) := by
  have hmin : Format.binary32.minExponent = -149 := rfl
  have hbits : Format.binary32.mantissaBits = 24 := rfl
  unfold Format.targetExponent totalExponent
  omega

/-- Rounding aims at the last place of the number, unless the mantissa has too few digits already. -/
theorem targetExponent_eq_place {m : ℕ} {e : ℤ} (hy : 0 < y) (hlow : m ≤ y) (hhigh : y < m + 1)
    (he : e ≤ place (y * 2 ^ e)) :
    Format.binary32.targetExponent (totalExponent m e) = place (y * 2 ^ e) := by
  rw [targetExponent_eq]
  rcases Nat.eq_zero_or_pos m with rfl | hm
  · -- less than one in the place of the exponent, which is therefore below the least last place
    have hsmall : y * 2 ^ e < (2 : ℕ) ^ e := by
      rw [Nat.cast_zero, zero_add] at hhigh
      calc y * 2 ^ e < 1 * 2 ^ e := by gcongr
        _ = (2 : ℕ) ^ e := by norm_num
    have hlog := (Int.lt_zpow_iff_log_lt (by norm_num) (by positivity)).1 hsmall
    unfold place at he ⊢
    rw [show Nat.log2 0 = 0 from rfl]
    omega
  · exact (place_mul_two_zpow hm hlow hhigh e).symm

theorem shiftToExponent_eq (m : ℕ) {e target : ℤ} {n : ℕ} (h : (target - e).toNat = n)
    (accuracy : Accuracy) :
    shiftToExponent m e accuracy target =
      (ExtendedMantissa.ofMantissaAndAccuracy m accuracy >>> n, e + n) := by
  unfold shiftToExponent
  dsimp only
  rw [h]

/-- A mantissa that was rounded is shifted at most once more, if it has become a power of two. -/
theorem shiftToTargetExponent_rounded {m : ℕ} {e : ℤ} (hm : m ≤ 2 ^ 24) (he : -149 ≤ e)
    (hfull : 2 ^ 23 ≤ m ∨ e = -149) :
    ∃ m' e', shiftToTargetExponent .binary32 m e .exact = (⟨m', false, false⟩, e') ∧
      m' < 2 ^ 24 ∧ -149 ≤ e' ∧ (2 ^ 23 ≤ m' ∨ e' = -149) ∧ (m' : ℝ) * 2 ^ e' = m * 2 ^ e := by
  unfold shiftToTargetExponent
  rw [targetExponent_eq]
  rcases hm.eq_or_lt with rfl | hlt
  · refine ⟨2 ^ 23, e + 1, ?_, by norm_num, by omega, .inl le_rfl, ?_⟩
    · have hshift : (max (((24 : ℕ) : ℤ) + e - 23) (-149) - e).toNat = 1 := by omega
      rw [Nat.log2_two_pow, shiftToExponent_eq _ hshift]
      rfl
    · rw [zpow_add_one₀ (by norm_num)]
      push_cast
      ring
  · have hlog : m.log2 ≤ 23 := by
      rcases Nat.eq_zero_or_pos m with rfl | hpos
      · exact Nat.zero_le _
      · exact Nat.lt_succ_iff.1 ((Nat.log2_lt hpos.ne').2 hlt)
    refine ⟨m, e, ?_, hlt, he, hfull, rfl⟩
    have hshift : (max ((m.log2 : ℤ) + e - 23) (-149) - e).toNat = 0 := by omega
    rw [shiftToExponent_eq _ hshift, Nat.cast_zero, add_zero]
    rfl

/-! ## Rounding -/

/-- An unpacked number that is finite, fit for packing, and stands for a real number. -/
structure StandsFor (number : UnpackedFloat) (r : ℝ) : Prop where
  canonical : Canonical number
  finite : number.isFinite = true
  real : realUnpacked number = r

/-- Rounding yields the nearest number. -/
theorem standsFor_roundWithAccuracy {sign : Sign} {m : ℕ} {e : ℤ} {accuracy : Accuracy}
    (h : Represents (.ofMantissaAndAccuracy m accuracy) y) (hy : 0 < y)
    (he : e ≤ place (y * 2 ^ e)) :
    StandsFor (roundWithAccuracy .binary32 sign m e accuracy) (signed sign (nearest (y * 2 ^ e))) := by
  have hmantissa : (ExtendedMantissa.ofMantissaAndAccuracy m accuracy).mantissa = m := by
    rcases accuracy with _ | (_ | _ | _) <;> rfl
  obtain ⟨hlow, hhigh⟩ := h.bounds
  rw [hmantissa] at hlow hhigh
  generalize hx : y * 2 ^ e = x at he ⊢
  have hpos : 0 < x := by rw [← hx]; positivity
  have htarget : Format.binary32.targetExponent (totalExponent m e) = place x := by
    rw [← hx] at he ⊢
    exact targetExponent_eq_place hy hlow hhigh he
  obtain ⟨n, hn⟩ : ∃ n : ℕ, place x = e + n := ⟨(place x - e).toNat, by omega⟩
  -- the first shift brings the mantissa to the last place
  have hfirst : shiftToTargetExponent .binary32 m e accuracy =
      (ExtendedMantissa.ofMantissaAndAccuracy m accuracy >>> n, place x) := by
    unfold shiftToTargetExponent
    have hshift : (place x - e).toNat = n := by omega
    rw [htarget, shiftToExponent_eq _ hshift, hn]
  have hdigits : (ExtendedMantissa.ofMantissaAndAccuracy m accuracy >>> n).roundedMantissa = digits x := by
    rw [(h.shiftRight n).roundedMantissa_eq, digits, hn, ← hx, zpow_add₀ (by norm_num), zpow_natCast,
      mul_comm ((2 : ℝ) ^ e), mul_div_mul_right _ _ (by positivity)]
  have hfull : 2 ^ 23 ≤ digits x ∨ place x = -149 :=
    (neg_le_place x).eq_or_lt.symm.imp (le_digits hpos) Eq.symm
  obtain ⟨m', e', hsecond, hm', he', hfull', hvalue⟩ :=
    shiftToTargetExponent_rounded (digits_le x) (neg_le_place x) hfull
  have hnearest : nearest x = m' * 2 ^ e' := by
    rw [nearest_of_nonneg hpos.le, nearestAbove, hvalue]
  unfold roundWithAccuracy
  simp only [hfirst, hdigits, hsecond]
  split_ifs with hzero
  · refine ⟨trivial, rfl, ?_⟩
    rw [hnearest, hzero, Nat.cast_zero, zero_mul]
    cases sign
    · exact neg_zero.symm
    · rfl
  · refine ⟨⟨hm', he', hfull'⟩, rfl, ?_⟩
    rw [realUnpacked_finite, hnearest]

end FrameDetect.Number
