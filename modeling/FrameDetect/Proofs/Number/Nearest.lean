import Mathlib

/-!
# Nearest numbers with 24 binary digits

A real number is rounded to the nearest multiple of a power of two.  The power leaves 24 digits, unless
that would need one below `2 ^ (-149)`.  Rounding keeps the order of numbers and their signs, keeps what
has few enough digits, and moves other numbers by at most half of their last place.
-/

namespace FrameDetect.Number

variable {x y : ℝ}

/-! ## Nearest whole numbers -/

/-- The whole number that is nearest to one that is not negative; of two equally near ones the even
one. -/
noncomputable def halfEven (x : ℝ) : ℕ :=
  if x - ⌊x⌋₊ < 1 / 2 then ⌊x⌋₊
  else if x - ⌊x⌋₊ = 1 / 2 then ⌊x⌋₊ + ⌊x⌋₊ % 2
  else ⌊x⌋₊ + 1

/-- Below a half, a number is rounded down. -/
theorem halfEven_of_lt {m : ℕ} (hlow : m ≤ x) (hhigh : x < m + 1 / 2) : halfEven x = m := by
  have hfloor : ⌊x⌋₊ = m := (Nat.floor_eq_iff (m.cast_nonneg.trans hlow)).2 ⟨hlow, by linarith⟩
  rw [halfEven, hfloor, if_pos (by linarith)]

/-- A half is rounded to the even neighbour. -/
theorem halfEven_of_eq {m : ℕ} (h : x = m + 1 / 2) : halfEven x = m + m % 2 := by
  have hfloor : ⌊x⌋₊ = m := (Nat.floor_eq_iff (by rw [h]; positivity)).2 ⟨by linarith, by linarith⟩
  rw [halfEven, hfloor, if_neg (by linarith), if_pos (by linarith)]

/-- Above a half, a number is rounded up. -/
theorem halfEven_of_gt {m : ℕ} (hlow : m + 1 / 2 < x) (hhigh : x < m + 1) : halfEven x = m + 1 := by
  have hfloor : ⌊x⌋₊ = m :=
    (Nat.floor_eq_iff (m.cast_nonneg.trans (by linarith))).2 ⟨by linarith, hhigh⟩
  rw [halfEven, hfloor, if_neg (by linarith), if_neg (by linarith)]

theorem halfEven_natCast (n : ℕ) : halfEven n = n :=
  halfEven_of_lt le_rfl (by linarith)

theorem floor_le_halfEven (x : ℝ) : ⌊x⌋₊ ≤ halfEven x := by
  unfold halfEven
  split_ifs <;> omega

theorem halfEven_le_floor_succ (x : ℝ) : halfEven x ≤ ⌊x⌋₊ + 1 := by
  unfold halfEven
  split_ifs <;> omega

theorem halfEven_mono (h : x ≤ y) : halfEven x ≤ halfEven y := by
  rcases (Nat.floor_le_floor h).eq_or_lt with hfloor | hfloor
  · -- both numbers lie between the same whole numbers
    rcases lt_trichotomy (x - ⌊x⌋₊) (1 / 2) with hx | hx | hx
    · rw [halfEven, if_pos hx, hfloor]
      exact floor_le_halfEven y
    · rw [halfEven_of_eq (m := ⌊y⌋₊) (by rw [← hfloor]; linarith)]
      rcases h.eq_or_lt with rfl | hlt
      · rw [halfEven_of_eq (m := ⌊x⌋₊) (by linarith)]
      · rw [halfEven_of_gt (m := ⌊y⌋₊) (by rw [← hfloor]; linarith) (Nat.lt_floor_add_one y)]
        omega
    · rw [halfEven_of_gt (m := ⌊y⌋₊) (by rw [← hfloor]; linarith) (Nat.lt_floor_add_one y)]
      exact hfloor ▸ halfEven_le_floor_succ x
  · calc halfEven x ≤ ⌊x⌋₊ + 1 := halfEven_le_floor_succ x
      _ ≤ ⌊y⌋₊ := hfloor
      _ ≤ halfEven y := floor_le_halfEven y

theorem abs_halfEven_sub_le (h : 0 ≤ x) : |(halfEven x : ℝ) - x| ≤ 1 / 2 := by
  have hlow := Nat.floor_le h
  have hhigh := Nat.lt_floor_add_one x
  rw [abs_le]
  unfold halfEven
  split_ifs with hless hhalf
  · constructor <;> linarith
  · have hparity : ((⌊x⌋₊ % 2 : ℕ) : ℝ) = 0 ∨ ((⌊x⌋₊ % 2 : ℕ) : ℝ) = 1 := by
      rcases Nat.mod_two_eq_zero_or_one ⌊x⌋₊ with heven | hodd
      · exact .inl (by rw [heven, Nat.cast_zero])
      · exact .inr (by rw [hodd, Nat.cast_one])
    push_cast
    rcases hparity with heven | hodd
    · constructor <;> linarith
    · constructor <;> linarith
  · push_cast
    have hmore := lt_of_le_of_ne (not_lt.1 hless) (Ne.symm hhalf)
    constructor <;> linarith

/-! ## The last place of a number -/

/-- The exponent of the last place of a number that is rounded to 24 digits. -/
noncomputable def place (x : ℝ) : ℤ := max (Int.log 2 x - 23) (-149)

/-- The digits of a rounded number, counted in its last place. -/
noncomputable def digits (x : ℝ) : ℕ := halfEven (x / 2 ^ place x)

theorem neg_le_place (x : ℝ) : -149 ≤ place x := le_max_right _ _

theorem place_mono (hx : 0 < x) (h : x ≤ y) : place x ≤ place y := by
  have hlog : Int.log 2 x ≤ Int.log 2 y := Int.log_mono_right hx h
  exact max_le_max (by omega) le_rfl

/-- A number has at most 24 digits before its last place. -/
theorem lt_two_zpow_place (x : ℝ) : x < 2 ^ (place x + 24) := by
  have hlog : x < (2 : ℕ) ^ (Int.log 2 x + 1) := Int.lt_zpow_succ_log_self (by norm_num) x
  have hexp : Int.log 2 x + 1 ≤ place x + 24 := by
    have : Int.log 2 x - 23 ≤ place x := le_max_left _ _
    omega
  calc x < ((2 : ℕ) : ℝ) ^ (Int.log 2 x + 1) := hlog
    _ = 2 ^ (Int.log 2 x + 1) := by norm_num
    _ ≤ 2 ^ (place x + 24) := zpow_le_zpow_right₀ (by norm_num) hexp

/-- A number whose last place is not the least one has 24 digits. -/
theorem two_zpow_place_le (hx : 0 < x) (h : -149 < place x) : 2 ^ (place x + 23) ≤ x := by
  have hlog : ((2 : ℕ) : ℝ) ^ Int.log 2 x ≤ x := Int.zpow_log_le_self (by norm_num) hx
  have hexp : place x + 23 = Int.log 2 x := by
    unfold place at h ⊢
    omega
  rw [hexp]
  simpa using hlog

/-- The last place of a number whose whole part is known, counted in a power of two. -/
theorem place_mul_two_zpow {m : ℕ} (hm : 0 < m) (hlow : m ≤ y) (hhigh : y < m + 1) (e : ℤ) :
    place (y * 2 ^ e) = max (m.log2 + e - 23) (-149) := by
  have hy : 0 < y := (Nat.cast_pos.2 hm).trans_le hlow
  have hlow' : (2 : ℝ) ^ m.log2 ≤ y :=
    hlow.trans' (by exact_mod_cast Nat.log2_self_le hm.ne')
  have hhigh' : y < (2 : ℝ) ^ (m.log2 + 1) :=
    hhigh.trans_le (by exact_mod_cast Nat.lt_log2_self)
  have hlog : Int.log 2 (y * 2 ^ e) = m.log2 + e := by
    apply le_antisymm
    · rw [← Int.lt_add_one_iff, ← Int.lt_zpow_iff_log_lt (by norm_num) (by positivity), add_right_comm,
        Nat.cast_ofNat, zpow_add₀ (by norm_num)]
      gcongr
      exact_mod_cast hhigh'
    · rw [← Int.zpow_le_iff_le_log (by norm_num) (by positivity), Nat.cast_ofNat,
        zpow_add₀ (by norm_num), zpow_natCast]
      gcongr
  rw [place, hlog]

theorem digits_le (x : ℝ) : digits x ≤ 2 ^ 24 := by
  have hx : x / 2 ^ place x ≤ ((2 ^ 24 : ℕ) : ℝ) := by
    rw [div_le_iff₀ (by positivity)]
    calc x ≤ 2 ^ (place x + 24) := (lt_two_zpow_place x).le
      _ = ((2 ^ 24 : ℕ) : ℝ) * 2 ^ place x := by
        rw [zpow_add₀ (by norm_num), mul_comm]
        norm_num
  exact (halfEven_mono hx).trans_eq (halfEven_natCast _)

theorem le_digits (hx : 0 < x) (h : -149 < place x) : 2 ^ 23 ≤ digits x := by
  have hle : ((2 ^ 23 : ℕ) : ℝ) ≤ x / 2 ^ place x := by
    rw [le_div_iff₀ (by positivity)]
    calc ((2 ^ 23 : ℕ) : ℝ) * 2 ^ place x = 2 ^ (place x + 23) := by
          rw [zpow_add₀ (by norm_num), mul_comm]
          norm_num
      _ ≤ x := two_zpow_place_le hx h
  exact (halfEven_natCast _).symm.trans_le (halfEven_mono hle)

/-! ## Nearest numbers -/

/-- The nearest number with 24 digits to one that is not negative. -/
noncomputable def nearestAbove (x : ℝ) : ℝ := digits x * 2 ^ place x

/-- The nearest number with 24 digits. -/
noncomputable def nearest (x : ℝ) : ℝ := if 0 ≤ x then nearestAbove x else -nearestAbove (-x)

theorem nearestAbove_nonneg (x : ℝ) : 0 ≤ nearestAbove x := by
  unfold nearestAbove
  positivity

theorem nearestAbove_mono (hx : 0 < x) (h : x ≤ y) : nearestAbove x ≤ nearestAbove y := by
  have hy : 0 < y := hx.trans_le h
  rcases (place_mono hx h).eq_or_lt with hplace | hplace
  · unfold nearestAbove digits
    rw [hplace]
    have hdigits : halfEven (x / 2 ^ place y) ≤ halfEven (y / 2 ^ place y) :=
      halfEven_mono (by gcongr)
    gcongr
  · -- all of the smaller number is less than the first digit of the greater one
    have hdigits : ((2 ^ 23 : ℕ) : ℝ) ≤ digits y :=
      Nat.cast_le.2 (le_digits hy ((neg_le_place x).trans_lt hplace))
    calc nearestAbove x ≤ ((2 ^ 24 : ℕ) : ℝ) * 2 ^ place x := by
          unfold nearestAbove
          gcongr
          exact digits_le x
      _ = ((2 ^ 23 : ℕ) : ℝ) * 2 ^ (place x + 1) := by
          rw [zpow_add_one₀ (by norm_num)]
          push_cast
          ring
      _ ≤ digits y * 2 ^ place y := by
          gcongr
          · norm_num
          · exact hplace

theorem nearest_of_nonneg (h : 0 ≤ x) : nearest x = nearestAbove x := if_pos h

theorem nearest_zero : nearest 0 = 0 := by
  rw [nearest_of_nonneg le_rfl, nearestAbove, digits, zero_div]
  have hzero := halfEven_natCast 0
  rw [Nat.cast_zero] at hzero
  simp [hzero]

theorem nearest_neg (x : ℝ) : nearest (-x) = -nearest x := by
  rcases lt_trichotomy x 0 with h | rfl | h
  · rw [nearest_of_nonneg (by linarith), nearest, if_neg (not_le.2 h), neg_neg]
  · rw [neg_zero, nearest_zero, neg_zero]
  · rw [nearest, if_neg (by linarith), neg_neg, nearest_of_nonneg h.le]

theorem nearest_nonneg (h : 0 ≤ x) : 0 ≤ nearest x := by
  rw [nearest_of_nonneg h]
  exact nearestAbove_nonneg x

theorem nearest_mono : Monotone nearest := by
  have above {x y : ℝ} (hx : 0 ≤ x) (h : x ≤ y) : nearest x ≤ nearest y := by
    rcases hx.eq_or_lt with rfl | hx
    · rw [nearest_zero]
      exact nearest_nonneg h
    · rw [nearest_of_nonneg hx.le, nearest_of_nonneg (hx.le.trans h)]
      exact nearestAbove_mono hx h
  intro x y h
  rcases le_total 0 x with hx | hx
  · exact above hx h
  · rcases le_total 0 y with hy | hy
    · have hneg := nearest_nonneg (neg_nonneg.2 hx)
      rw [nearest_neg] at hneg
      exact (neg_nonneg.1 hneg).trans (nearest_nonneg hy)
    · have hneg := above (neg_nonneg.2 hy) (neg_le_neg h)
      rwa [nearest_neg, nearest_neg, neg_le_neg_iff] at hneg

/-! ## What rounding keeps, and what it changes -/

/-- A number with few enough digits. -/
def Representable (x : ℝ) : Prop :=
  ∃ (k : ℤ) (e : ℤ), |k| ≤ 2 ^ 24 ∧ -149 ≤ e ∧ x = k * 2 ^ e

theorem nearest_natCast_mul {k : ℕ} {e : ℤ} (hk : k < 2 ^ 24) (he : -149 ≤ e) :
    nearest (k * 2 ^ e) = k * 2 ^ e := by
  rcases Nat.eq_zero_or_pos k with rfl | hpos
  · rw [Nat.cast_zero, zero_mul, nearest_zero]
  · have hlog : k.log2 < 24 := (Nat.log2_lt hpos.ne').2 hk
    have hplace : place (k * 2 ^ e) ≤ e := by
      rw [place_mul_two_zpow hpos le_rfl (lt_add_one _)]
      exact max_le (by omega) he
    have hwhole : (k : ℝ) * 2 ^ e / 2 ^ place (k * 2 ^ e) =
        (k * 2 ^ (e - place (k * 2 ^ e)).toNat : ℕ) := by
      rw [mul_div_assoc, ← zpow_sub₀ (by norm_num), Nat.cast_mul, Nat.cast_pow, ← zpow_natCast,
        Int.toNat_of_nonneg (by omega), Nat.cast_ofNat]
    rw [nearest_of_nonneg (by positivity), nearestAbove, digits, hwhole, halfEven_natCast, ← hwhole]
    exact div_mul_cancel₀ _ (by positivity)

/-- What has few enough digits is kept. -/
theorem Representable.nearest_eq (h : Representable x) : nearest x = x := by
  obtain ⟨k, e, hk, he, rfl⟩ := h
  have nat {k : ℕ} (hk : k ≤ 2 ^ 24) : nearest (k * 2 ^ e) = k * 2 ^ e := by
    rcases hk.eq_or_lt with rfl | hk
    · have hcarry : ((2 ^ 24 : ℕ) : ℝ) * 2 ^ e = ((2 ^ 23 : ℕ) : ℝ) * 2 ^ (e + 1) := by
        rw [zpow_add_one₀ (by norm_num)]
        push_cast
        ring
      rw [hcarry]
      exact nearest_natCast_mul (by norm_num) (by omega)
    · exact nearest_natCast_mul hk he
  obtain ⟨n, rfl | rfl⟩ := k.eq_nat_or_neg
  · rw [Nat.abs_cast] at hk
    exact_mod_cast nat (by exact_mod_cast hk)
  · rw [abs_neg, Nat.abs_cast] at hk
    rw [Int.cast_neg, neg_mul, nearest_neg]
    exact_mod_cast congrArg Neg.neg (nat (by exact_mod_cast hk))

theorem Representable.two_pow_mul (h : Representable x) (n : ℕ) : Representable (2 ^ n * x) := by
  obtain ⟨k, e, hk, he, rfl⟩ := h
  refine ⟨k, e + n, hk, by omega, ?_⟩
  rw [zpow_add₀ (by norm_num), zpow_natCast]
  ring

/-- Rounding does not lead out of an interval with representable ends. -/
theorem Representable.abs_nearest_le (hy : Representable y) (h : |x| ≤ y) : |nearest x| ≤ y := by
  rw [abs_le] at h ⊢
  have hlow := nearest_mono h.1
  have hhigh := nearest_mono h.2
  rw [nearest_neg, hy.nearest_eq] at hlow
  rw [hy.nearest_eq] at hhigh
  exact ⟨hlow, hhigh⟩

theorem representable_two_zpow {e : ℤ} (he : -149 ≤ e) : Representable (2 ^ e) :=
  ⟨1, e, by norm_num, he, by rw [Int.cast_one, one_mul]⟩

theorem representable_intCast {k : ℤ} (hk : |k| ≤ 2 ^ 24) : Representable k :=
  ⟨k, 0, hk, by norm_num, by rw [zpow_zero, mul_one]⟩

/-- Rounding moves a number by at most half of its last place. -/
theorem abs_nearest_sub_le (x : ℝ) : |nearest x - x| ≤ 2 ^ place |x| / 2 := by
  have above {x : ℝ} (hx : 0 ≤ x) : |nearest x - x| ≤ 2 ^ place x / 2 := by
    have hpos : (0 : ℝ) < 2 ^ place x := by positivity
    have herror := abs_halfEven_sub_le (x := x / 2 ^ place x) (by positivity)
    have hscale : nearest x - x = (halfEven (x / 2 ^ place x) - x / 2 ^ place x) * 2 ^ place x := by
      rw [nearest_of_nonneg hx, nearestAbove, digits, sub_mul, div_mul_cancel₀ _ hpos.ne']
    rw [hscale, abs_mul, abs_of_pos hpos]
    linarith [mul_le_mul_of_nonneg_right herror hpos.le]
  rcases le_total 0 x with hx | hx
  · rw [abs_of_nonneg hx]
    exact above hx
  · have hneg := above (neg_nonneg.2 hx)
    rwa [nearest_neg, ← neg_sub', abs_neg, ← abs_of_nonpos hx] at hneg

/-- Rounding moves a number by a small part of it, or by a tiny amount if the number is tiny. -/
theorem abs_nearest_sub_le_add (x : ℝ) : |nearest x - x| ≤ |x| / 2 ^ 24 + 1 / 2 ^ 150 := by
  rcases eq_or_ne x 0 with rfl | hne
  · rw [nearest_zero]
    norm_num
  have hx : 0 < |x| := abs_pos.2 hne
  have hplace : (2 : ℝ) ^ place |x| ≤ |x| / 2 ^ 23 + 1 / 2 ^ 149 := by
    rcases (neg_le_place |x|).eq_or_lt with hleast | hmore
    · calc (2 : ℝ) ^ place |x| = 1 / 2 ^ 149 := by
            rw [← hleast, zpow_neg, one_div]
            rfl
        _ ≤ |x| / 2 ^ 23 + 1 / 2 ^ 149 := le_add_of_nonneg_left (by positivity)
    · have hdigits := two_zpow_place_le hx hmore
      rw [zpow_add₀ (by norm_num)] at hdigits
      calc (2 : ℝ) ^ place |x| ≤ |x| / 2 ^ 23 := (le_div_iff₀ (by norm_num)).2 hdigits
        _ ≤ |x| / 2 ^ 23 + 1 / 2 ^ 149 := le_add_of_nonneg_right (by norm_num)
  calc |nearest x - x| ≤ 2 ^ place |x| / 2 := abs_nearest_sub_le x
    _ ≤ (|x| / 2 ^ 23 + 1 / 2 ^ 149) / 2 := by gcongr
    _ = |x| / 2 ^ 24 + 1 / 2 ^ 150 := by ring

/-- A bound on numbers is a bound on how far they are moved. -/
theorem abs_nearest_sub_le_of_abs_le (h : |x| ≤ y) : |nearest x - x| ≤ y / 2 ^ 24 + 1 / 2 ^ 150 :=
  (abs_nearest_sub_le_add x).trans (by gcongr)

/-! ## What the numbers of a machine stand for -/

section
open Float.Model (UnpackedFloat)
open Float.Model.UnpackedFloat (ExtendedMantissa)

/-- The real number that an unpacked number stands for, if it is finite. -/
noncomputable def realUnpacked : UnpackedFloat → ℝ
  | .finite sign m e _ => sign.apply m * 2 ^ e
  | _ => 0

/-- A real number as a value of single precision: beyond the greatest finite number it is an
infinity. -/
noncomputable def saturated (r : ℝ) : EReal :=
  if 2 ^ 128 ≤ r then ⊤ else if r ≤ -2 ^ 128 then ⊥ else r

/-- A mantissa whose residual bits tell where above it a real number lies. -/
def Represents (em : ExtendedMantissa) (y : ℝ) : Prop :=
  match em.roundBit, em.stickyBit with
  | false, false => y = em.mantissa
  | false, true => em.mantissa < y ∧ y < em.mantissa + 1 / 2
  | true, false => y = em.mantissa + 1 / 2
  | true, true => em.mantissa + 1 / 2 < y ∧ y < em.mantissa + 1

end

end FrameDetect.Number
