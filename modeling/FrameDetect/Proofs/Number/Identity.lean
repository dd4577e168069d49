import FrameDetect.Proofs.Number.SignedZero

/-!
# Numbers that are the same

A number is told by what it unpacks to, as there is only one way to write what is not a number.  Two finite numbers
with the same value are therefore the same number, unless they are zeros of different signs.
-/

namespace FrameDetect.Number

open Float.Model (Format UnpackedFloat)
open Float.Model.UnpackedFloat

/-! ## Fields -/

theorem ofBitVec_injective {s t : BitVec 1} (h : Sign.ofBitVec s = Sign.ofBitVec t) : s = t := by
  rcases BitVec.eq_zero_or_eq_one s with rfl | rfl <;> rcases BitVec.eq_zero_or_eq_one t with rfl | rfl
  · rfl
  · cases h
  · cases h
  · rfl

variable {b b' : BitVec Format.binary32.numBits} {sign : Sign}

/-- The bits of a number are those of its sign, its exponent and its mantissa. -/
theorem eq_of_components (hsign : @unpackSign .binary32 b = unpackSign b')
    (hexponent : @unpackExponent .binary32 b = unpackExponent b')
    (hmantissa : @unpackMantissa .binary32 b = unpackMantissa b') : b = b' := by
  have hs := congrArg BitVec.toNat hsign
  have he := congrArg BitVec.toNat hexponent
  have hm := congrArg BitVec.toNat hmantissa
  simp [unpackSign, unpackExponent, unpackMantissa, BitVec.extractLsb, Nat.shiftRight_eq_div_pow]
    at hs he hm
  have hb : b.toNat < 2 ^ 32 := b.isLt
  have hb' : b'.toNat < 2 ^ 32 := b'.isLt
  apply BitVec.eq_of_toNat_eq
  omega

theorem components_of_infinity (h : unpack .binary32 b = .infinity sign) :
    Sign.ofBitVec (@unpackSign .binary32 b) = sign ∧ @unpackExponent .binary32 b = -1#_ ∧
      @unpackMantissa .binary32 b = 0#_ := by
  unfold unpack at h
  dsimp only at h
  split_ifs at h with hexponent hmantissa
  injection h with hsign
  exact ⟨hsign, hexponent, hmantissa⟩

theorem components_of_zero (h : unpack .binary32 b = .zero sign) :
    Sign.ofBitVec (@unpackSign .binary32 b) = sign ∧ @unpackExponent .binary32 b = 0#_ ∧
      @unpackMantissa .binary32 b = 0#_ := by
  unfold unpack at h
  dsimp only at h
  split_ifs at h with hfull hnone hexponent hmantissa
  injection h with hsign
  exact ⟨hsign, hexponent, hmantissa⟩

/-- A mantissa with all its digits has the first of them in the exponent. -/
theorem components_of_finite {m : ℕ} {e : ℤ} {pos : 0 < m} (h : unpack .binary32 b = .finite sign m e pos) :
    Sign.ofBitVec (@unpackSign .binary32 b) = sign ∧
      ((@unpackExponent .binary32 b).toNat : ℤ) = (if 2 ^ 23 ≤ m then e + 150 else 0) ∧
      (@unpackMantissa .binary32 b).toNat = m % 2 ^ 23 := by
  have hbound : (@unpackMantissa .binary32 b).toNat < 2 ^ 23 := (unpackMantissa b).isLt
  have hbias : Format.binary32.exponentBias = 127 := rfl
  unfold unpack at h
  dsimp only at h
  split_ifs at h with hfull hnone hexponent hmantissa
  · injection h with hsign hm he
    have hsmall : ¬2 ^ 23 ≤ m := by omega
    rw [if_neg hsmall, hexponent, ← hm, Nat.mod_eq_of_lt hbound]
    exact ⟨hsign, rfl, rfl⟩
  · injection h with hsign hm he
    rw [toNat_one_append] at hm
    rw [hbias] at he
    have hlarge : 2 ^ 23 ≤ m := by omega
    rw [if_pos hlarge]
    exact ⟨hsign, by omega, by omega⟩

/-- There is one way to write what is not a number. -/
theorem eq_packedNaN (valid : Format.binary32.Valid b) (h : unpack .binary32 b = .notANumber) :
    b = packedNaN .binary32 := by
  unfold unpack at h
  dsimp only at h
  split_ifs at h with hexponent hmantissa
  exact valid.eq_packedNaN hexponent hmantissa

/-! ## Numbers -/

variable {x y : Float32}

/-- A number is told by what it unpacks to. -/
theorem eq_of_unpack_eq (h : x.toModel.unpack = y.toModel.unpack) : x = y := by
  obtain ⟨⟨bits, valid⟩⟩ := x
  obtain ⟨⟨bits', valid'⟩⟩ := y
  change unpack .binary32 bits.toBitVec = unpack .binary32 bits'.toBitVec at h
  suffices hbits : bits.toBitVec = bits'.toBitVec by
    obtain rfl : bits = bits' := UInt32.toBitVec_inj.1 hbits
    rfl
  cases hu : unpack .binary32 bits.toBitVec with
  | notANumber =>
    rw [eq_packedNaN valid hu, eq_packedNaN valid' (h.symm.trans hu)]
  | infinity sign =>
    obtain ⟨hs, he, hm⟩ := components_of_infinity hu
    obtain ⟨hs', he', hm'⟩ := components_of_infinity (h.symm.trans hu)
    exact eq_of_components (ofBitVec_injective (hs.trans hs'.symm)) (he.trans he'.symm) (hm.trans hm'.symm)
  | zero sign =>
    obtain ⟨hs, he, hm⟩ := components_of_zero hu
    obtain ⟨hs', he', hm'⟩ := components_of_zero (h.symm.trans hu)
    exact eq_of_components (ofBitVec_injective (hs.trans hs'.symm)) (he.trans he'.symm) (hm.trans hm'.symm)
  | finite sign m e pos =>
    obtain ⟨hs, he, hm⟩ := components_of_finite hu
    obtain ⟨hs', he', hm'⟩ := components_of_finite (h.symm.trans hu)
    refine eq_of_components (ofBitVec_injective (hs.trans hs'.symm)) ?_ ?_
    · exact BitVec.eq_of_toNat_eq (Int.ofNat_inj.1 (he.trans he'.symm))
    · exact BitVec.eq_of_toNat_eq (hm.trans hm'.symm)

/-- Values tell all numbers but zeros. -/
theorem HasValue.ext {r : ℝ} (hx : HasValue x r) (hy : HasValue y r) (hr : r ≠ 0) : x = y := by
  have hbeq : (x == y) = true := beq_iff_value.2 ⟨hx.isNaN, hy.isNaN, hx.value_eq.trans hy.value_eq.symm⟩
  obtain ⟨hnx, hny, hrank⟩ := beq_iff_rank.1 hbeq
  rcases (Alike.of_rank hnx hny hrank).eq_or_zeros with heq | ⟨s, -, hzero, -⟩
  · exact eq_of_unpack_eq heq
  · have hr' : Number.real x = 0 := by rw [Number.real, hzero, realUnpacked_zero]
    exact absurd (hx.real.symm.trans hr') hr

/-- A zero comes back with its sign. -/
theorem unpack_zero_pack (sign : Sign) :
    (Float32.ofModel (.pack (.zero sign))).toModel.unpack = .zero sign := by
  cases sign <;> rfl

/-! ## Zero -/

/-- Nothing is left of a finite number when it is taken from itself. -/
theorem sub_self_unpacked (format : Format) {a : UnpackedFloat} (h : a.isFinite = true) :
    UnpackedFloat.sub format a a = .zero .positive := by
  rcases eq_zero_or_eq_finite h with ⟨sign, rfl⟩ | ⟨sign, m, e, pos, rfl⟩
  · cases sign <;> rfl
  · simp only [UnpackedFloat.sub, UnpackedFloat.normalize, Int.sub_self]
    rfl

/-- The difference of equal numbers is positive zero, unless something is taken from negative zero. -/
theorem sub_eq_zero_of_beq (hx : x.isFinite = true) (h : (x == y) = true)
    (hpositive : x.toModel.unpack ≠ .zero .negative) : x - y = 0 := by
  obtain ⟨hnx, hny, hrank⟩ := beq_iff_rank.1 h
  have hsub : UnpackedFloat.sub .binary32 x.toModel.unpack y.toModel.unpack = .zero .positive := by
    rcases (Alike.of_rank hnx hny hrank).eq_or_zeros with heq | ⟨s, t, hs, ht⟩
    · rw [← heq]
      exact sub_self_unpacked .binary32 hx
    · rw [hs] at hpositive ⊢
      rw [ht]
      cases s with
      | negative => exact absurd rfl hpositive
      | positive => cases t <;> rfl
  apply eq_of_unpack_eq
  change unpack .binary32 (pack .binary32 (UnpackedFloat.sub .binary32 x.toModel.unpack y.toModel.unpack)) = _
  rw [hsub]
  exact (unpack_zero_pack .positive).trans unpack_zero.symm

/-- A positive number does not change positive zero. -/
theorem zero_mul_of_pos (hx : x.isFinite = true) (pos : 0 < x) : 0 * x = 0 := by
  have hreal : 0 < real x := (hasValue_zero.lt_iff ⟨hx, rfl⟩).1 pos
  rw [real] at hreal
  have hmul : UnpackedFloat.mul .binary32 (.zero .positive) x.toModel.unpack = .zero .positive := by
    rcases eq_zero_or_eq_finite hx with ⟨sign, hu⟩ | ⟨sign, m, e, hm, hu⟩
    · rw [hu, realUnpacked_zero] at hreal
      exact absurd hreal (lt_irrefl 0)
    · cases sign with
      | negative =>
        rw [hu] at hreal
        exact absurd hreal (realUnpacked_neg m e hm).not_gt
      | positive =>
        rw [hu]
        rfl
  apply eq_of_unpack_eq
  change unpack .binary32 (pack .binary32
    (UnpackedFloat.mul .binary32 (0 : Float32).toModel.unpack x.toModel.unpack)) = _
  rw [unpack_zero, hmul]
  exact unpack_zero_pack .positive

/-- No byte is negative zero. -/
theorem unpack_ofUInt8_ne (n : UInt8) : n.toFloat32.toModel.unpack ≠ .zero .negative := by
  intro hzero
  have hreal : (n.toNat : ℝ) = 0 := by
    rw [← (hasValue_ofUInt8 n).real, real, hzero, realUnpacked_zero]
  obtain rfl : n = 0 := UInt8.toNat_inj.1 (Nat.cast_eq_zero.1 hreal)
  cases hzero

end FrameDetect.Number
