import FrameDetect.Number.Order
import FrameDetect.Proofs.Number.Extended

/-!
# Magnitudes

Powers of two are represented, so that rounding does not lead beyond them.  Bounds on the operands of a sum, a
product or a half therefore bound the result, and nothing overflows that stays below `2 ^ 127`.
-/

namespace FrameDetect.Number

/-- A finite number of magnitude `2 ^ k` at most. -/
structure Within (k : ℕ) (x : Float32) : Prop where
  finite : x.isFinite = true
  bound : |real x| ≤ 2 ^ k

namespace Within

variable {j k : ℕ} {x y : Float32} {r : ℝ}

theorem of_hasValue (hx : HasValue x r) (h : |r| ≤ 2 ^ k) : Within k x := by
  refine ⟨hx.finite, ?_⟩
  rw [hx.real]
  exact h

theorem hasValue (hx : Within k x) : HasValue x (real x) := ⟨hx.finite, rfl⟩

theorem isNaN (hx : Within k x) : x.isNaN = false := isNaN_of_isFinite hx.finite

theorem isInf (hx : Within k x) : x.isInf = false := by
  rw [← Bool.not_eq_true, isInf_iff_value hx.isNaN, hx.hasValue.value_eq]
  simp

/-- What is rounded below a power of two stays there. -/
theorem of_nearest (h : |r| ≤ 2 ^ k) (hk : k ≤ 127) (hx : |r| ≤ 2 ^ 127 → HasValue x (nearest r)) :
    Within k x := by
  have hpow : Representable ((2 : ℝ) ^ (k : ℤ)) := representable_two_zpow (by omega)
  rw [zpow_natCast] at hpow
  exact of_hasValue (hx (h.trans (pow_le_pow_right₀ one_le_two hk))) (hpow.abs_nearest_le h)

theorem zero : Within k 0 := of_hasValue hasValue_zero (by rw [abs_zero]; positivity)

theorem add (hx : Within k x) (hy : Within k y) (h : k < 127) : Within (k + 1) (x + y) := by
  have hsum : |real x + real y| ≤ 2 ^ (k + 1) := by
    rw [pow_succ, mul_two]
    exact (abs_add_le _ _).trans (add_le_add hx.bound hy.bound)
  exact of_nearest hsum h (hx.hasValue.add hy.hasValue)

theorem sub (hx : Within k x) (hy : Within k y) (h : k < 127) : Within (k + 1) (x - y) := by
  have hdifference : |real x - real y| ≤ 2 ^ (k + 1) := by
    rw [pow_succ, mul_two]
    exact (abs_sub _ _).trans (add_le_add hx.bound hy.bound)
  exact of_nearest hdifference h (hx.hasValue.sub hy.hasValue)

theorem mul (hx : Within j x) (hy : Within k y) (h : j + k ≤ 127) : Within (j + k) (x * y) := by
  have hproduct : |real x * real y| ≤ 2 ^ (j + k) := by
    rw [abs_mul, pow_add]
    exact mul_le_mul hx.bound hy.bound (abs_nonneg _) (by positivity)
  exact of_nearest hproduct h (hx.hasValue.mul hy.hasValue)

theorem half (hx : Within k x) (h : k ≤ 127) : Within k (x / 2) := by
  have hquotient : |real x / 2| ≤ 2 ^ k := by
    rw [abs_div, abs_two]
    linarith [hx.bound, abs_nonneg (real x)]
  exact of_nearest hquotient h (hx.hasValue.div hasValue_two two_ne_zero)

theorem lesser (hx : Within k x) (hy : Within k y) : Within k (lesser x y) :=
  of_hasValue (hx.hasValue.lesser hy.hasValue) (abs_min_le_max_abs_abs.trans (max_le hx.bound hy.bound))

theorem greater (hx : Within k x) (hy : Within k y) : Within k (greater x y) :=
  of_hasValue (hx.hasValue.greater hy.hasValue) (abs_max_le_max_abs_abs.trans (max_le hx.bound hy.bound))

end Within

end FrameDetect.Number
