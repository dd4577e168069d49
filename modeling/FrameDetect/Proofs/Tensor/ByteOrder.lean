import FrameDetect.Proofs.Number.Identity
import FrameDetect.Proofs.Number.Products
import FrameDetect.Proofs.Tensor.Decoding

/-!
# Numbers in the order of their bytes

Decoding rounds twice, and each time the result may overflow or vanish.  Rounding keeps order all the same, so that a
greater byte never stands for a smaller number, although it may stand for the same one.  Numbers change their sign only
at the zero point, which stands for zero itself.
-/

namespace FrameDetect.Tensor

open FrameDetect.Number

/-- The comparison of two numbers agrees with that of two bytes: the numbers are never unordered, and one of them is
smaller only if its byte is. -/
def InByteOrder (r s : UInt8) (x y : Float32) : Prop :=
  x < y ∧ r < s ∨ (x == y) = true ∨ y < x ∧ s < r

namespace Quantization.Usable

variable {q : Quantization} (h : q.Usable)

include h

theorem hasValue_zeroPoint : HasValue q.zeroPoint (real q.zeroPoint) := ⟨h.zeroPoint_finite, rfl⟩

theorem value_scale_nonneg : 0 ≤ value q.scale := value_nonneg_of_not_le h.scale_pos

/-- A byte stands for its distance from the zero point, which is rounded, times the scale, which is rounded again. -/
theorem value_dequantize (raw : UInt8) : value (q.dequantize raw) =
    roundedValue (roundedValue (raw.toNat - real q.zeroPoint : ℝ) * value q.scale) := by
  have hzero := h.hasValue_zeroPoint
  have hdistance : value (raw.toFloat32 - q.zeroPoint) = roundedValue (raw.toNat - real q.zeroPoint : ℝ) := by
    have hsum := roundsSum_sub (isNaN_ofUInt8 raw) hzero.isNaN
    rw [hsum.value_eq (isNaN_sub (isNaN_ofUInt8 raw) h.zeroPoint_finite), (hasValue_ofUInt8 raw).value_eq,
      hzero.value_eq, ← EReal.coe_neg, ← EReal.coe_add, ← sub_eq_add_neg]
  rw [Quantization.dequantize, value_mul, hdistance]

/-- Bytes and the numbers that they stand for are in the same order. -/
theorem dequantize_mono {r s : UInt8} (hrs : r ≤ s) : q.dequantize r ≤ q.dequantize s := by
  have hbytes : (r.toNat : ℝ) ≤ s.toNat := by exact_mod_cast UInt8.le_iff_toNat_le.1 hrs
  refine le_iff_value.2 ⟨h.isNaN_dequantize r, h.isNaN_dequantize s, ?_⟩
  rw [h.value_dequantize, h.value_dequantize]
  apply roundedValue_mono
  apply mul_le_mul_of_nonneg_right _ h.value_scale_nonneg
  exact roundedValue_mono (EReal.coe_le_coe_iff.2 (sub_le_sub_right hbytes _))

/-- No byte below the zero point stands for a positive number. -/
theorem dequantize_nonpos {raw : UInt8} (hraw : raw.toFloat32 ≤ q.zeroPoint) : q.dequantize raw ≤ 0 := by
  have hdistance : ((raw.toNat - real q.zeroPoint : ℝ) : EReal) ≤ 0 :=
    EReal.coe_nonpos.2 (sub_nonpos.2 (((hasValue_ofUInt8 raw).le_iff h.hasValue_zeroPoint).1 hraw))
  refine le_iff_value.2 ⟨h.isNaN_dequantize raw, hasValue_zero.isNaN, ?_⟩
  rw [value_zero, h.value_dequantize]
  apply roundedValue_nonpos
  exact mul_nonpos_of_nonpos_of_nonneg (roundedValue_nonpos hdistance) h.value_scale_nonneg

/-- No byte above the zero point stands for a negative number. -/
theorem dequantize_nonneg {raw : UInt8} (hraw : q.zeroPoint ≤ raw.toFloat32) : 0 ≤ q.dequantize raw := by
  have hdistance : (0 : EReal) ≤ (raw.toNat - real q.zeroPoint : ℝ) :=
    EReal.coe_nonneg.2 (sub_nonneg.2 ((h.hasValue_zeroPoint.le_iff (hasValue_ofUInt8 raw)).1 hraw))
  refine zero_le_iff.2 ⟨h.isNaN_dequantize raw, ?_⟩
  rw [h.value_dequantize]
  exact roundedValue_nonneg (mul_nonneg (roundedValue_nonneg hdistance) h.value_scale_nonneg)

/-- The zero point stands for positive zero. -/
theorem dequantize_eq_zero {raw : UInt8} (hraw : (raw.toFloat32 == q.zeroPoint) = true) : q.dequantize raw = 0 := by
  have hdistance : raw.toFloat32 - q.zeroPoint = 0 :=
    sub_eq_zero_of_beq (hasValue_ofUInt8 raw).finite hraw (unpack_ofUInt8_ne raw)
  rw [Quantization.dequantize, hdistance]
  exact zero_mul_of_pos h.scale_finite ((not_le_zero_iff h.scale_finite).1 h.scale_pos)

theorem inByteOrder_dequantize (r s : UInt8) : InByteOrder r s (q.dequantize r) (q.dequantize s) := by
  -- a strict comparison excludes the opposite order of bytes
  have hlt {r s : UInt8} (hnumbers : q.dequantize r < q.dequantize s) : r < s := by
    by_contra hbytes
    have hle := h.dequantize_mono (UInt8.not_lt.1 hbytes)
    exact (not_lt_iff (h.isNaN_dequantize r) (h.isNaN_dequantize s)).2 hle hnumbers
  rcases lt_or_beq_or_lt (h.isNaN_dequantize r) (h.isNaN_dequantize s) with hless | hequal | hgreater
  · exact .inl ⟨hless, hlt hless⟩
  · exact .inr (.inl hequal)
  · exact .inr (.inr ⟨hgreater, hlt hgreater⟩)

end Quantization.Usable

end FrameDetect.Tensor
