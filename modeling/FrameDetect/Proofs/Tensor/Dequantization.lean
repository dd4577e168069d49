import FrameDetect.Proofs.Detect.SelfOverlap
import FrameDetect.Proofs.Tensor.Decoding

/-!
# Boxes under a whole zero point

Where the zero point is a whole number, a byte is taken from it without an error, so that the only error
of a decoded number is that of one multiplication.  Boxes with bytes above the zero point in both of their
sizes are then moderate.
-/

namespace FrameDetect.Tensor

open FrameDetect.Detect (Box Moderate)
open FrameDetect.Number

/-- A quantization whose zero point is a byte, with a scale from `2 ^ (-20)` to one. -/
structure Quantization.Whole (q : Quantization) (zero : UInt8) : Prop where
  zeroPoint : (q.zeroPoint == zero.toFloat32) = true
  scale_low : 1 / 1048576 ≤ q.scale
  scale_high : q.scale ≤ 1

namespace Quantization.Whole

variable {q : Quantization} {zero : UInt8} (h : q.Whole zero)

include h

theorem hasValue_zeroPoint : HasValue q.zeroPoint zero.toNat := by
  obtain ⟨hnum, -, hvalue⟩ := beq_iff_value.1 h.zeroPoint
  exact .of_value hnum (hvalue.trans (hasValue_ofUInt8 zero).value_eq)

/-- The scale, which lies between its bounds. -/
theorem hasValue_scale : ∃ s, HasValue q.scale s ∧ 1 / 2 ^ 20 ≤ s ∧ s ≤ 1 := by
  have hleast : HasValue (1 / 1048576) (signed .positive ((8388608 : ℕ) * 2 ^ (-43 : ℤ))) :=
    hasValue_of_unpack (by norm_num) rfl
  obtain ⟨s, hs, hlow, hhigh⟩ := hleast.exists_of_between hasValue_one h.scale_low h.scale_high
  norm_num [signed] at hlow
  norm_num
  exact ⟨s, hs, hlow, hhigh⟩

/-- A byte stands for its distance from the zero point, times the scale, rounded once. -/
theorem hasValue_dequantize {s : ℝ} (hs : HasValue q.scale s) (hone : |s| ≤ 1) (raw : UInt8) :
    HasValue (q.dequantize raw) (nearest (((raw.toNat - zero.toNat : ℤ) : ℝ) * s)) := by
  have hraw : raw.toNat < 256 := raw.toNat_lt
  have hzero : zero.toNat < 256 := zero.toNat_lt
  have hdistance : |(raw.toNat - zero.toNat : ℤ)| ≤ 256 := by rw [abs_le]; omega
  have hcast : ((raw.toNat - zero.toNat : ℤ) : ℝ) = raw.toNat - zero.toNat := by push_cast; rfl
  generalize (raw.toNat - zero.toNat : ℤ) = k at hdistance hcast
  have hk : |(k : ℝ)| ≤ 256 := by exact_mod_cast hdistance
  have hexact : nearest (raw.toNat - zero.toNat) = k := by
    rw [← hcast]
    exact (representable_intCast (hdistance.trans (by norm_num))).nearest_eq
  have hsub := (hasValue_ofUInt8 raw).sub h.hasValue_zeroPoint (by rw [← hcast]; linarith)
  rw [hexact] at hsub
  refine hsub.mul hs ?_
  rw [abs_mul]
  calc |(k : ℝ)| * |s| ≤ 256 * 1 := by gcongr
    _ ≤ 2 ^ 127 := by norm_num

end Quantization.Whole

/-- The greatest distance of a byte from a zero point, times the scale, bounds every decoded number. -/
theorem abs_nearest_mul_le {s : ℝ} (hs : Representable s) (hpos : 0 < s) {k : ℤ} (hk : |k| ≤ 256) :
    |nearest (k * s)| ≤ 2 ^ 8 * s := by
  refine (hs.two_pow_mul 8).abs_nearest_le ?_
  have hk' : |(k : ℝ)| ≤ 2 ^ 8 := by
    norm_num
    exact_mod_cast hk
  rw [abs_mul, abs_of_pos hpos]
  gcongr

/-- A byte above the zero point stands for at least the scale. -/
theorem le_nearest_mul {s : ℝ} (hs : Representable s) (hpos : 0 < s) {k : ℤ} (hk : 1 ≤ k) :
    s ≤ nearest (k * s) := by
  have hk' : (1 : ℝ) ≤ k := by exact_mod_cast hk
  calc s = nearest s := hs.nearest_eq.symm
    _ ≤ nearest (k * s) := nearest_mono (le_mul_of_one_le_left hpos.le hk')

namespace View

variable (v : View)

theorem boxOffset_lt (i : Fin v.rows) (k : Fin boxFields) :
    i.val * v.layout.rowSize + k.val < v.bytes.size :=
  v.offset_lt i ⟨k.val, Nat.lt_trans k.isLt v.layout.boxFields_lt_rowSize⟩

/-- The byte in a field before the class scores. -/
def boxByte (i : Fin v.rows) (k : Fin boxFields) : UInt8 :=
  v.bytes.get (i.val * v.layout.rowSize + k.val) (v.boxOffset_lt i k)

theorem boxField_eq (i : Fin v.rows) (k : Fin boxFields) :
    v.boxField i k = v.layout.quantization.dequantize (v.boxByte i k) := rfl

variable {v}

/-- A box whose bytes for both sizes lie above the zero point is moderate. -/
theorem moderate_box {zero : UInt8} (h : v.layout.quantization.Whole zero) {i : Fin v.rows}
    (wide : zero < v.boxByte i 2) (tall : zero < v.boxByte i 3) : ∃ w t, Moderate (v.box i) w t := by
  obtain ⟨s, hs, hlow, hhigh⟩ := h.hasValue_scale
  have hpos : 0 < s := hlow.trans_lt' (by positivity)
  have hrepresentable : Representable s := hs.real ▸ representable_real hs.finite
  have hfield (k : Fin boxFields) :=
    h.hasValue_dequantize hs (by rwa [abs_of_pos hpos]) (v.boxByte i k)
  have hdistance (k : Fin boxFields) : |((v.boxByte i k).toNat - zero.toNat : ℤ)| ≤ 256 := by
    have := (v.boxByte i k).toNat_lt
    have := zero.toNat_lt
    rw [abs_le]
    omega
  have hbound (k : Fin boxFields) := abs_nearest_mul_le hrepresentable hpos (hdistance k)
  have hsize (k : Fin boxFields) (above : zero < v.boxByte i k) :
      s ≤ nearest (((v.boxByte i k).toNat - zero.toNat : ℤ) * s) := by
    have hbytes := UInt8.lt_iff_toNat_lt.1 above
    exact le_nearest_mul hrepresentable hpos (by omega)
  have hfar {c w : ℝ} (hc : |c| ≤ 2 ^ 8 * s) (hw : s ≤ w) : |c| ≤ 2 ^ 8 * w := by linarith
  have hsmall {w : ℝ} (hw : |w| ≤ 2 ^ 8 * s) : w ≤ 2 ^ 8 := by linarith [le_abs_self w]
  have hw := hsize 2 wide
  have ht := hsize 3 tall
  exact ⟨_, _, hfield 2, hfield 3, ⟨hlow.trans hw, hsmall (hbound 2)⟩,
    ⟨hlow.trans ht, hsmall (hbound 3)⟩, ⟨_, hfield 0, hfar (hbound 0) hw⟩,
    ⟨_, hfield 1, hfar (hbound 1) ht⟩⟩

/-- Rows with the same four bytes have the same box. -/
theorem box_congr {i j : Fin v.rows} (same : ∀ k : Fin boxFields, k < 4 → v.boxByte i k = v.boxByte j k) :
    v.box i = v.box j := by
  simp only [box, boxField_eq, same 0 (by decide), same 1 (by decide), same 2 (by decide),
    same 3 (by decide)]

end View

end FrameDetect.Tensor
