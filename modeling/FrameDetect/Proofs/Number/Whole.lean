import FrameDetect.Number.Rounding
import FrameDetect.Proofs.Number.Products

/-!
# Whole numbers

Floors and ceilings of single precision numbers are those of the real numbers that they stand for, up to the
range of integers with 32 bits.  A natural number is taken to the nearest single precision number, which is a
whole number again.  An integer of any size is taken to the nearest number, or to an infinity where it is too
large, so that the order of integers is kept.
-/

namespace FrameDetect.Number

open Float.Model (Format UnpackedFloat)
open Float.Model.UnpackedFloat

/-! ## Floors and ceilings -/

theorem floorScaled_eq (n e : ℤ) : floorScaled n e = ⌊(n : ℝ) * 2 ^ e⌋ := by
  unfold floorScaled
  split_ifs with he
  · obtain ⟨k, rfl⟩ := Int.eq_ofNat_of_zero_le he
    have hwhole : (n : ℝ) * 2 ^ (k : ℤ) = ((n * 2 ^ k : ℤ) : ℝ) := by
      push_cast
      rw [zpow_natCast]
    rw [hwhole, Int.floor_intCast, Int.toNat_natCast, Int.shiftLeft_eq]
  · obtain ⟨k, hk⟩ := Int.eq_ofNat_of_zero_le (Int.neg_nonneg_of_nonpos (not_le.1 he).le)
    have hquotient : (n : ℝ) * 2 ^ e = n / ((2 ^ k : ℕ) : ℝ) := by
      have hneg : e = -(k : ℤ) := by omega
      rw [hneg, zpow_neg, zpow_natCast, div_eq_mul_inv]
      push_cast
      rfl
    rw [hquotient, Int.floor_div_natCast, Int.floor_intCast, hk, Int.toNat_natCast,
      Int.shiftRight_eq_div_pow]

theorem ceilScaled_eq (n e : ℤ) : ceilScaled n e = ⌈(n : ℝ) * 2 ^ e⌉ := by
  rw [ceilScaled, floorScaled_eq, Int.cast_neg, neg_mul, Int.floor_neg, neg_neg]

variable {x : Float32} {r : ℝ}

theorem toRange_eq {whole : ℤ → ℤ → ℤ} {f : ℝ → ℤ} (hx : HasValue x r)
    (hwhole : ∀ n e, whole n e = f (n * 2 ^ e)) (hzero : f 0 = 0) :
    toRange signed32 whole x = signed32.clamp (f r) := by
  obtain ⟨hfinite, rfl⟩ := hx
  unfold toRange real
  rcases eq_zero_or_eq_finite hfinite with ⟨sign, hu⟩ | ⟨sign, m, e, pos, hu⟩
  · simp only [hu, realUnpacked_zero, hzero]
    rfl
  · simp only [hu, hwhole]
    rfl

/-- The floor of a finite number is that of its value, if that fits 32 bits. -/
theorem HasValue.floor32_eq (hx : HasValue x r) : floor32 x = signed32.clamp ⌊r⌋ :=
  toRange_eq hx floorScaled_eq Int.floor_zero

theorem HasValue.ceil32_eq (hx : HasValue x r) : ceil32 x = signed32.clamp ⌈r⌉ :=
  toRange_eq hx ceilScaled_eq Int.ceil_zero

/-! ## Natural numbers in single precision -/

theorem abs_natCast_le {n : ℕ} (h : n ≤ 2 ^ 32) : |(n : ℝ)| ≤ 2 ^ 127 := by
  rw [Nat.abs_cast]
  calc (n : ℝ) ≤ 2 ^ 32 := by exact_mod_cast h
    _ ≤ 2 ^ 127 := by norm_num

/-- A word with few enough digits stands for itself. -/
theorem hasValue_ofUInt64 {n : UInt64} (h : n.toNat ≤ 2 ^ 24) : HasValue n.toFloat32 n.toNat := by
  have hrepresentable : Representable ((n.toNat : ℤ) : ℝ) :=
    representable_intCast (by rw [Nat.abs_cast]; exact_mod_cast h)
  have hstands := standsFor_normalize n.toNat 0 .positive
  rw [zpow_zero, mul_one] at hstands
  have hbound : |((n.toNat : ℤ) : ℝ)| ≤ 2 ^ 127 := by
    rw [Int.cast_natCast]
    exact abs_natCast_le (h.trans (by norm_num))
  have hvalue := HasValue.of_standsFor hstands hbound
  rw [hrepresentable.nearest_eq, Int.cast_natCast] at hvalue
  exact hvalue

/-- A greater number is computed as a product of mantissas. -/
theorem standsFor_ofScientific {n : ℕ} (h : 2 ^ 23 ≤ n) :
    StandsFor (UnpackedFloat.ofScientific .binary32 n 0) (nearest n) := by
  have hpos : 0 < n := by omega
  have hmantissa : n <<< 24 * 10 ^ 0 = n * 2 ^ 24 := by rw [Nat.shiftLeft_eq, pow_zero, mul_one]
  have hvalue : ((n * 2 ^ 24 : ℕ) : ℝ) * 2 ^ (-24 : ℤ) = n := by
    rw [Nat.cast_mul, mul_assoc]
    norm_num
  -- the mantissa is `n` with 24 more digits, so that at least 24 of them are there before rounding
  have hplace : -24 ≤ place (((n * 2 ^ 24 : ℕ) : ℝ) * 2 ^ (-24 : ℤ)) := by
    have hlog : 23 ≤ (n * 2 ^ 24).log2 := (Nat.le_log2 (by omega)).2 (by omega)
    rw [place_mul_two_zpow (by omega) le_rfl (lt_add_one _)]
    omega
  have hround : StandsFor (roundWithAccuracy .binary32 .positive (n * 2 ^ 24) (-24) .exact) (nearest n) := by
    rw [← hvalue]
    exact standsFor_roundWithAccuracy (represents_exact _)
      (Nat.cast_pos.2 (Nat.mul_pos hpos (by norm_num))) hplace
  have hrange : (2 : ℤ) ^ Format.binary32.exponentBits = 256 := rfl
  have hdigits : Format.binary32.mantissaBits = 24 := rfl
  unfold UnpackedFloat.ofScientific
  rw [dif_neg hpos.ne', if_neg (by omega), if_neg (by omega), if_pos le_rfl]
  simp only [UnpackedFloat.mul, hdigits, Int.toNat_zero, hmantissa]
  exact hround

/-- A natural number is taken to the nearest number. -/
theorem hasValue_ofNat {n : ℕ} (h : n < 2 ^ 32) : HasValue (Float32.ofNat n) (nearest n) := by
  change HasValue (Float32.ofScientific n false 0) (nearest n)
  unfold Float32.ofScientific
  by_cases hsmall : n < 2 ^ 23
  · have hword : n.toUInt64.toNat = n := UInt64.toNat_ofNat_of_lt' (h.trans (by norm_num))
    have hn : HasValue n.toUInt64.toFloat32 n := by
      have hvalue := hasValue_ofUInt64 (n := n.toUInt64) (by omega)
      rwa [hword] at hvalue
    have hone : HasValue (Float32.ofBits 0x3F800000) 1 := hasValue_one
    rw [dif_pos ⟨hsmall, by norm_num⟩]
    have hproduct := hn.mul hone (by rw [mul_one]; exact abs_natCast_le h.le)
    rw [mul_one] at hproduct
    exact hproduct
  · rw [dif_neg (fun hboth => hsmall hboth.1)]
    exact HasValue.of_standsFor (standsFor_ofScientific (not_lt.1 hsmall)) (abs_natCast_le h.le)

theorem nearest_natCast {n : ℕ} (h : n ≤ 2 ^ 24) : nearest n = n := by
  have hn : |(n : ℤ)| ≤ 2 ^ 24 := by rw [Nat.abs_cast]; exact_mod_cast h
  exact_mod_cast (representable_intCast hn).nearest_eq

/-- A natural number with few enough digits is its own floor. -/
theorem floor32_ofNat {n : ℕ} (h : n ≤ 2 ^ 24) : floor32 (Float32.ofNat n) = n := by
  rw [(hasValue_ofNat (by omega)).floor32_eq, nearest_natCast h, Int.floor_natCast]
  simp only [Range.clamp, signed32]
  omega

/-- A natural number other than zero has a positive floor, though it may be off by some digits. -/
theorem one_le_floor32_ofNat {n : ℕ} (hpos : 0 < n) (h : n < 2 ^ 32) :
    1 ≤ floor32 (Float32.ofNat n) := by
  have hone : nearest ((1 : ℕ) : ℝ) = (1 : ℕ) := nearest_natCast (by norm_num)
  have hmono : nearest ((1 : ℕ) : ℝ) ≤ nearest n := nearest_mono (Nat.cast_le.2 hpos)
  rw [hone, Nat.cast_one] at hmono
  have hfloor : 1 ≤ ⌊nearest n⌋ := Int.le_floor.2 (by exact_mod_cast hmono)
  rw [(hasValue_ofNat h).floor32_eq]
  simp only [Range.clamp, signed32]
  omega

/-- A natural number is not taken far from the integers of 32 bits. -/
theorem floor32_ofNat_le {n : ℕ} (h : n < 2 ^ 32) : floor32 (Float32.ofNat n) ≤ signed32.greatest := by
  rw [(hasValue_ofNat h).floor32_eq]
  simp only [Range.clamp, signed32]
  omega

/-! ## Integers of any size -/

theorem rounded_neg (r : ℝ) : rounded (-r) = -rounded r := by
  rw [rounded, rounded, nearest_neg, saturated_neg]

/-- A natural number of any size. -/
theorem value_ofNat (n : ℕ) : (Float32.ofNat n).isNaN = false ∧ value (Float32.ofNat n) = rounded n := by
  by_cases hsmall : n < 2 ^ 23
  · have hn : HasValue (Float32.ofNat n) n := by
      have hvalue := hasValue_ofNat (n := n) (by omega)
      rwa [nearest_natCast (by omega)] at hvalue
    refine ⟨hn.isNaN, ?_⟩
    rw [← rounded_real hn.finite, hn.real]
  · have hstands := standsFor_ofScientific (not_lt.1 hsmall)
    change (Float32.ofScientific n false 0).isNaN = false ∧ value (Float32.ofScientific n false 0) = rounded n
    unfold Float32.ofScientific
    rw [dif_neg (fun hboth => hsmall hboth.1)]
    exact ⟨isNaN_pack (isNaN_of_isFinite_unpacked hstands.finite), hstands.value_eq⟩

/-- A negated number unpacks to the opposite. -/
theorem unpack_neg (x : Float32) : x.neg.toModel.unpack = x.toModel.unpack.neg := by
  obtain ⟨hcanonical, hfits⟩ := canonical_toModel x
  have hfits' : Fits x.toModel.unpack.neg := by
    cases h : x.toModel.unpack with
    | finite sign m e pos =>
      rw [h] at hfits
      exact hfits
    | _ => trivial
  exact (unpack_pack (canonical_neg hcanonical)).trans (settled_of_fits hfits')

theorem value_neg (x : Float32) : value x.neg = -value x := by
  rw [value, unpack_neg, valueUnpacked_neg_eq]
  rfl

/-- An integer of any size. -/
theorem value_ofInt (n : ℤ) : (Float32.ofInt n).isNaN = false ∧ value (Float32.ofInt n) = rounded n := by
  cases n with
  | ofNat n => exact value_ofNat n
  | negSucc n =>
    obtain ⟨hnum, hvalue⟩ := value_ofNat n.succ
    change (Float32.ofNat n.succ).neg.isNaN = false ∧ value (Float32.ofNat n.succ).neg = _
    have hnum' : (Float32.ofNat n.succ).neg.isNaN = false :=
      (congrArg UnpackedFloat.isNaN (unpack_neg _)).trans ((isNaN_neg _).trans hnum)
    rw [value_neg, hvalue, Int.cast_negSucc, rounded_neg]
    exact ⟨hnum', rfl⟩

/-- An integer with few enough digits stands for itself. -/
theorem hasValue_ofInt {n : ℤ} (h : |n| ≤ 2 ^ 24) : HasValue (Float32.ofInt n) n := by
  obtain ⟨hnum, hvalue⟩ := value_ofInt n
  refine .of_value hnum ?_
  rw [hvalue, rounded, (representable_intCast h).nearest_eq, saturated_of_abs_lt]
  calc |(n : ℝ)| ≤ 2 ^ 24 := by exact_mod_cast h
    _ < 2 ^ 128 := by norm_num

end FrameDetect.Number
