import FrameDetect.Proofs.Number.Identity
import FrameDetect.Proofs.Number.Indeterminate
import FrameDetect.Proofs.Number.Whole

/-!
# Whole numbers, a half going away from zero

A finite number is taken to the integer nearest to its value.  The integer has no more digits than the number had, so
that nothing is lost when it becomes a number again.  Integers are never more than a half away and in the order of
what they come from.
-/

namespace FrameDetect.Number

open Float.Model (Format UnpackedFloat)
open Float.Model.UnpackedFloat

/-! ## Integers nearest to real numbers -/

/-- The nearest integer, a half going away from zero. -/
noncomputable def halfAway (r : ℝ) : ℤ :=
  if 0 ≤ r then round r else -round (-r)

variable {r s : ℝ}

theorem halfAway_of_nonneg (h : 0 ≤ r) : halfAway r = ⌊r + 1 / 2⌋ := by
  rw [halfAway, if_pos h, round_eq]

theorem halfAway_zero : halfAway 0 = 0 := by
  rw [halfAway, if_pos le_rfl, round_zero]

theorem halfAway_neg (r : ℝ) : halfAway (-r) = -halfAway r := by
  rcases lt_trichotomy r 0 with h | rfl | h
  · rw [halfAway, halfAway, if_pos (neg_nonneg.2 h.le), if_neg (not_le.2 h), neg_neg]
  · rw [neg_zero, halfAway_zero, neg_zero]
  · rw [halfAway, halfAway, if_pos h.le, if_neg (by linarith), neg_neg]

theorem halfAway_nonneg (h : 0 ≤ r) : 0 ≤ halfAway r := by
  rw [halfAway_of_nonneg h]
  exact Int.floor_nonneg.2 (by linarith)

theorem halfAway_signed (sign : Sign) (r : ℝ) : halfAway (signed sign r) = signed sign (halfAway r) := by
  cases sign with
  | positive => rfl
  | negative => exact halfAway_neg r

theorem halfAway_mono : Monotone halfAway := by
  intro r s h
  have above {r s : ℝ} (hr : 0 ≤ r) (h : r ≤ s) : halfAway r ≤ halfAway s := by
    rw [halfAway_of_nonneg hr, halfAway_of_nonneg (hr.trans h)]
    exact Int.floor_mono (by linarith)
  rcases le_total 0 r with hr | hr
  · exact above hr h
  · rcases le_total 0 s with hs | hs
    · have hleft := halfAway_nonneg (neg_nonneg.2 hr)
      rw [halfAway_neg] at hleft
      exact (by omega : halfAway r ≤ 0).trans (halfAway_nonneg hs)
    · have hneg := above (neg_nonneg.2 hs) (neg_le_neg h)
      rw [halfAway_neg, halfAway_neg] at hneg
      omega

theorem abs_halfAway_sub_le (r : ℝ) : |(halfAway r : ℝ) - r| ≤ 1 / 2 := by
  have above {r : ℝ} (hr : 0 ≤ r) : |(halfAway r : ℝ) - r| ≤ 1 / 2 := by
    rw [halfAway, if_pos hr, abs_sub_comm]
    exact abs_sub_round r
  rcases le_total 0 r with hr | hr
  · exact above hr
  · have hneg := above (neg_nonneg.2 hr)
    rwa [halfAway_neg, Int.cast_neg, ← neg_sub', abs_neg] at hneg

/-- An integer that is less than a half away is the nearest one. -/
theorem halfAway_eq_of_abs_lt {n : ℤ} (h : |r - n| < 1 / 2) : halfAway r = n := by
  have herror := abs_halfAway_sub_le r
  have htriangle := abs_sub_le (halfAway r : ℝ) r n
  have hclose : |halfAway r - n| < 1 := by
    have : |(halfAway r : ℝ) - n| < 1 := by linarith
    exact_mod_cast this
  rw [Int.abs_lt_one_iff] at hclose
  omega

theorem halfAway_intCast (n : ℤ) : halfAway n = n :=
  halfAway_eq_of_abs_lt (by rw [sub_self, abs_zero]; norm_num)

/-! ## Integers nearest to numbers -/

theorem halfUp_eq (m k : ℕ) : (halfUp m k : ℤ) = ⌊(m : ℝ) / 2 ^ k + 1 / 2⌋ := by
  have hsum : (m : ℝ) / 2 ^ k + 1 / 2 = ((2 * m + 2 ^ k : ℕ) : ℝ) / (2 ^ (k + 1) : ℕ) := by
    push_cast
    field_simp
    ring
  rw [hsum, halfUp, Nat.shiftRight_eq_div_pow, Nat.shiftLeft_eq, one_mul, Int.floor_div_natCast, Int.floor_natCast]
  norm_cast

/-- Where there are fractional digits, the integer has no more digits than there were. -/
theorem halfUp_le {m k : ℕ} (hm : 0 < m) (hk : 0 < k) : halfUp m k ≤ m := by
  have hpow : 2 ≤ 2 ^ k := Nat.le_self_pow hk.ne' 2
  have hsum : 2 * m + 2 ^ k ≤ 2 ^ (k + 1) * m := by
    rw [pow_succ]
    nlinarith
  rw [halfUp, Nat.shiftRight_eq_div_pow, Nat.shiftLeft_eq, one_mul]
  exact Nat.div_le_of_le_mul hsum

variable {x y : Float32}

theorem roundAway_of_zero {sign : Sign} (h : x.toModel.unpack = .zero sign) : roundAway x = x := by
  rw [roundAway, h]

theorem roundAway_of_infinity {sign : Sign} (h : x.toModel.unpack = .infinity sign) : roundAway x = x := by
  rw [roundAway, h]

theorem hasValue_zero_pack (sign : Sign) : HasValue (.ofModel (.pack (.zero sign))) 0 := by
  have hunpack := unpack_zero_pack sign
  refine ⟨congrArg UnpackedFloat.isFinite hunpack, ?_⟩
  rw [real, hunpack, realUnpacked_zero]

/-- A whole number with few enough digits is kept when it becomes a number. -/
theorem hasValue_round (sign : Sign) {n : ℕ} (pos : 0 < n) (h : n ≤ 2 ^ 24) :
    HasValue (.ofModel (.pack (.round .binary32 sign n 0))) (signed sign (n : ℝ)) := by
  have hround := standsFor_round sign pos 0
  rw [zpow_zero, mul_one, ← nearest_signed] at hround
  have hwhole : nearest (signed sign (n : ℝ)) = signed sign (n : ℝ) := by rw [nearest_signed, nearest_natCast h]
  have hbound : |signed sign (n : ℝ)| ≤ 2 ^ 127 := by
    have habs : |signed sign (n : ℝ)| = |(n : ℝ)| := by
      cases sign with
      | positive => rfl
      | negative => exact abs_neg _
    rw [habs]
    exact abs_natCast_le (h.trans (by norm_num))
  have hvalue := HasValue.of_standsFor hround hbound
  rwa [hwhole] at hvalue

/-- Fractional digits are rounded off. -/
theorem hasValue_halfUp (sign : Sign) {m : ℕ} (pos : 0 < m) (hm : m ≤ 2 ^ 24) {e : ℤ} (he : e < 0) :
    HasValue (.ofModel (.pack (if halfUp m (-e).toNat = 0 then .zero sign
      else .round .binary32 sign (halfUp m (-e).toNat) 0))) (halfAway (signed sign ((m : ℝ) * 2 ^ e))) := by
  obtain ⟨k, rfl⟩ : ∃ k : ℕ, e = -k := ⟨(-e).toNat, by omega⟩
  rw [neg_neg, Int.toNat_natCast]
  have hk : 0 < k := by omega
  have hwhole : halfAway (signed sign ((m : ℝ) * 2 ^ (-k : ℤ))) = signed sign (halfUp m k : ℤ) := by
    rw [halfAway_signed, halfAway_of_nonneg (by positivity), halfUp_eq, zpow_neg, zpow_natCast, ← div_eq_mul_inv]
  have hcast : ((signed sign (halfUp m k : ℤ) : ℤ) : ℝ) = signed sign (halfUp m k : ℝ) := by
    cases sign <;> simp [signed]
  rw [hwhole, hcast]
  split_ifs with hmagnitude
  · have hzero : signed sign ((halfUp m k : ℕ) : ℝ) = 0 := by cases sign <;> simp [signed, hmagnitude]
    rw [hzero]
    exact hasValue_zero_pack sign
  · exact hasValue_round sign (Nat.pos_of_ne_zero hmagnitude) ((halfUp_le pos hk).trans hm)

/-- A finite number is taken to the integer nearest to its value. -/
theorem HasValue.roundAway (hx : HasValue x r) : HasValue (roundAway x) (halfAway r) := by
  obtain ⟨hfinite, rfl⟩ := hx
  rcases eq_zero_or_eq_finite hfinite with ⟨sign, hu⟩ | ⟨sign, m, e, pos, hu⟩
  · have hzero : Number.real x = 0 := by rw [Number.real, hu, realUnpacked_zero]
    rw [roundAway_of_zero hu, hzero, halfAway_zero, Int.cast_zero]
    exact ⟨hfinite, hzero⟩
  · have hreal : Number.real x = signed sign ((m : ℝ) * 2 ^ e) := by rw [Number.real, hu, realUnpacked_finite]
    by_cases he : 0 ≤ e
    · -- there are no fractional digits
      have hsame : Number.roundAway x = x := by
        rw [Number.roundAway, hu]
        exact if_pos he
      obtain ⟨k, rfl⟩ := Int.eq_ofNat_of_zero_le he
      have hwhole : Number.real x = ((signed sign ((m : ℤ) * 2 ^ k) : ℤ) : ℝ) := by
        rw [hreal]
        cases sign <;> simp [signed]
      rw [hsame, hwhole, halfAway_intCast]
      exact ⟨hfinite, hwhole⟩
    · have hcanonical := (canonical_toModel x).1
      rw [hu] at hcanonical
      rw [Number.roundAway, hu, hreal]
      dsimp only
      rw [if_neg he]
      exact hasValue_halfUp sign pos hcanonical.1.le (not_le.1 he)

theorem isNaN_roundAway (hx : x.isNaN = false) : (roundAway x).isNaN = false := by
  rcases isFinite_or_infinity hx with hfinite | ⟨sign, hinf⟩
  · exact (HasValue.roundAway ⟨hfinite, rfl⟩).isNaN
  · rwa [roundAway_of_infinity hinf]

/-- The order of numbers is kept, infinities included. -/
theorem roundAway_mono (h : x ≤ y) : roundAway x ≤ roundAway y := by
  obtain ⟨hx, hy, hvalue⟩ := le_iff_value.1 h
  refine le_iff_value.2 ⟨isNaN_roundAway hx, isNaN_roundAway hy, ?_⟩
  rcases isFinite_or_infinity hx with hfx | ⟨s, hsx⟩ <;> rcases isFinite_or_infinity hy with hfy | ⟨t, hty⟩
  · have hrx := HasValue.roundAway ⟨hfx, rfl⟩
    have hry := HasValue.roundAway ⟨hfy, rfl⟩
    rw [value_of_isFinite hfx, value_of_isFinite hfy, EReal.coe_le_coe_iff] at hvalue
    rw [hrx.value_eq, hry.value_eq, EReal.coe_le_coe_iff]
    exact_mod_cast halfAway_mono hvalue
  · rw [roundAway_of_infinity hty]
    rw [value_of_isFinite hfx] at hvalue
    cases t with
    | positive => exact le_top.trans_eq (congrArg valueUnpacked hty).symm
    | negative => exact absurd (le_bot_iff.1 (hvalue.trans_eq (congrArg valueUnpacked hty))) (EReal.coe_ne_bot _)
  · rw [roundAway_of_infinity hsx]
    rw [value_of_isFinite hfy] at hvalue
    cases s with
    | positive =>
      exact absurd (top_le_iff.1 ((congrArg valueUnpacked hsx).symm.trans_le hvalue)) (EReal.coe_ne_top _)
    | negative => exact (congrArg valueUnpacked hsx).trans_le bot_le
  · rwa [roundAway_of_infinity hsx, roundAway_of_infinity hty]

end FrameDetect.Number
