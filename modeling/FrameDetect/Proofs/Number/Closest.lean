import FrameDetect.Proofs.Number.Arithmetic

/-!
# No number is closer

Rounding leads to a number with 24 digits, and no other such number is closer to what was rounded: those with the same
last place are multiples of it, and those with a smaller one lie below all 24 digits.
-/

namespace FrameDetect.Number

variable {x y r : ℝ}

/-- No whole number is closer. -/
theorem abs_halfEven_sub_le_abs (h : 0 ≤ x) (k : ℤ) : |(halfEven x : ℝ) - x| ≤ |(k : ℝ) - x| := by
  have herror := abs_halfEven_sub_le h
  by_cases hk : (halfEven x : ℤ) = k
  · rw [← hk, Int.cast_natCast]
  · -- different whole numbers are at least one apart, so that the other one is at least a half away
    have hapart : (1 : ℝ) ≤ |(halfEven x : ℝ) - k| := by
      have hwhole : 1 ≤ |(halfEven x : ℤ) - k| := Int.one_le_abs (sub_ne_zero.2 hk)
      exact_mod_cast hwhole
    have htriangle := abs_sub_le (halfEven x : ℝ) x k
    rw [abs_sub_comm x] at htriangle
    linarith

/-- No multiple of the last place is closer. -/
theorem abs_nearest_sub_le_abs_multiple (h : 0 ≤ x) (k : ℤ) :
    |nearest x - x| ≤ |(k : ℝ) * 2 ^ place x - x| := by
  have hpos : (0 : ℝ) < 2 ^ place x := by positivity
  have hscale (n : ℝ) : |n * 2 ^ place x - x| = |n - x / 2 ^ place x| * 2 ^ place x := by
    rw [← abs_of_pos hpos, ← abs_mul, abs_of_pos hpos, sub_mul, div_mul_cancel₀ _ hpos.ne']
  rw [nearest_of_nonneg h, nearestAbove, digits, hscale, hscale]
  exact mul_le_mul_of_nonneg_right (abs_halfEven_sub_le_abs (by positivity) k) hpos.le

/-- A number with few enough digits is a multiple of the last place, or lies below all 24 digits. -/
theorem Representable.multiple_or_le (hy : Representable y) (x : ℝ) :
    (∃ k : ℤ, y = k * 2 ^ place x) ∨ -149 < place x ∧ y ≤ 2 ^ (place x + 23) := by
  obtain ⟨k, e, hk, he, rfl⟩ := hy
  by_cases hplace : place x ≤ e
  · refine .inl ⟨k * 2 ^ (e - place x).toNat, ?_⟩
    rw [Int.cast_mul, Int.cast_pow, Int.cast_ofNat, ← zpow_natCast, Int.toNat_of_nonneg (by omega), mul_assoc,
      ← zpow_add₀ (by norm_num), sub_add_cancel]
  · refine .inr ⟨by omega, ?_⟩
    have hk' : (k : ℝ) ≤ 2 ^ (24 : ℤ) := by exact_mod_cast (le_abs_self k).trans hk
    calc (k : ℝ) * 2 ^ e ≤ 2 ^ (24 : ℤ) * 2 ^ e := by gcongr
      _ = 2 ^ (24 + e) := by rw [zpow_add₀ (by norm_num)]
      _ ≤ 2 ^ (place x + 23) := zpow_le_zpow_right₀ (by norm_num) (by omega)

theorem Representable.neg (hy : Representable y) : Representable (-y) := by
  obtain ⟨k, e, hk, he, rfl⟩ := hy
  refine ⟨-k, e, by rwa [abs_neg], he, ?_⟩
  rw [Int.cast_neg, neg_mul]

/-- No number with few enough digits is closer. -/
theorem Representable.abs_nearest_sub_le_abs (hy : Representable y) (x : ℝ) : |nearest x - x| ≤ |y - x| := by
  have above {x y : ℝ} (hx : 0 < x) (hy : Representable y) : |nearest x - x| ≤ |y - x| := by
    rcases hy.multiple_or_le x with ⟨k, rfl⟩ | ⟨hplace, hbelow⟩
    · exact abs_nearest_sub_le_abs_multiple hx.le k
    · have hdigits := two_zpow_place_le hx hplace
      have hleast : ((2 ^ 23 : ℤ) : ℝ) * 2 ^ place x = 2 ^ (place x + 23) := by
        rw [add_comm, zpow_add₀ (by norm_num)]
        norm_num
      have hmultiple := abs_nearest_sub_le_abs_multiple hx.le (2 ^ 23)
      rw [hleast, abs_of_nonpos (sub_nonpos.2 hdigits)] at hmultiple
      rw [abs_of_nonpos (sub_nonpos.2 (hbelow.trans hdigits))]
      linarith
  rcases lt_trichotomy x 0 with hx | rfl | hx
  · have hneg := above (neg_pos.2 hx) hy.neg
    rwa [nearest_neg, ← neg_sub', ← neg_sub', abs_neg, abs_neg] at hneg
  · rw [nearest_zero, sub_zero, abs_zero]
    exact abs_nonneg _
  · exact above hx hy

/-- A finite number than which no other is closer to a real number. -/
structure IsClosest (x : Float32) (r : ℝ) : Prop where
  finite : x.isFinite = true
  closest : ∀ y : Float32, y.isFinite = true → |real x - r| ≤ |real y - r|

theorem HasValue.isClosest {x : Float32} (hx : HasValue x (nearest r)) : IsClosest x r := by
  refine ⟨hx.finite, fun y hy => ?_⟩
  rw [hx.real]
  exact (representable_real hy).abs_nearest_sub_le_abs r

end FrameDetect.Number
