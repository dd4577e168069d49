import FrameDetect.Proofs.Number.Comparison

/-!
# Arithmetic that stays among numbers

Rounding gives a number, and packing keeps it one.  Subtraction of a finite number and multiplication by
a finite number other than zero therefore lead from numbers to numbers.
-/

namespace FrameDetect.Number

open Float.Model (Format UnpackedFloat)
open Float.Model.UnpackedFloat

variable {format : Format}

/-- Three fields make up a number, unless the exponent has all its bits set and the mantissa does not
vanish. -/
theorem isNaN_unpack_packComponents {sign : Sign} {exponent : BitVec format.exponentBits}
    {mantissa : BitVec format.mantissaBitsWithoutImplicit}
    (h : exponent = -1#_ → mantissa = 0#_) :
    (unpack format (packComponents format sign exponent mantissa)).isNaN = false := by
  unfold unpack
  simp only [unpackMantissa_packComponents, unpackExponent_packComponents]
  by_cases he : exponent = -1#_
  · rw [if_pos he, if_pos (h he)]
    rfl
  · rw [if_neg he]
    split
    · split <;> rfl
    · rfl

/-- An exponent below the greatest one does not have all its bits set. -/
private theorem ofNat_ne_allOnes {n w : Nat} (h : ¬2 ^ w ≤ n + 1) : BitVec.ofNat w n ≠ -1#_ := by
  intro heq
  have hn : n < 2 ^ w := by omega
  have := congrArg BitVec.toNat heq
  rw [BitVec.toNat_ofNat, Nat.mod_eq_of_lt hn, BitVec.neg_one_eq_allOnes, BitVec.toNat_allOnes] at this
  omega

theorem isNaN_unpack_pack {number : UnpackedFloat} (h : number.isNaN = false) :
    (unpack format (pack format number)).isNaN = false := by
  fun_cases pack with
  | case1 => exact absurd h (by decide)
  | case2 => exact isNaN_unpack_packComponents fun _ => rfl
  | case3 => exact isNaN_unpack_packComponents fun _ => rfl
  | case4 => exact isNaN_unpack_packComponents fun _ => rfl
  | case5 _ _ _ _ _ _ below =>
    exact isNaN_unpack_packComponents fun full => absurd full (ofNat_ne_allOnes below)
  | case6 _ _ _ _ _ _ below =>
    refine isNaN_unpack_packComponents fun full => absurd full (ofNat_ne_allOnes ?_)
    have := Nat.one_lt_two_pow (Nat.pos_iff_ne_zero.1 format.he)
    omega

theorem isNaN_roundWithAccuracy (sign : Sign) (mantissa : Nat) (exponent : Int)
    (accuracy : Accuracy) :
    (roundWithAccuracy format sign mantissa exponent accuracy).isNaN = false := by
  unfold roundWithAccuracy
  dsimp only
  split <;> rfl

theorem isNaN_normalize (mantissa exponent : Int) (sign : Sign) :
    (UnpackedFloat.normalize format mantissa exponent sign).isNaN = false := by
  unfold UnpackedFloat.normalize
  split
  · exact isNaN_roundWithAccuracy ..
  · rfl
  · exact isNaN_roundWithAccuracy ..

/-- A finite number is a zero or has a mantissa. -/
theorem eq_zero_or_eq_finite {number : UnpackedFloat} (h : number.isFinite = true) :
    (∃ sign, number = .zero sign) ∨ ∃ sign m e pos, number = .finite sign m e pos := by
  cases number with
  | infinity => exact absurd h Bool.false_ne_true
  | notANumber => exact absurd h Bool.false_ne_true
  | zero sign => exact .inl ⟨sign, rfl⟩
  | finite sign m e pos => exact .inr ⟨sign, m, e, pos, rfl⟩

theorem isNaN_of_isFinite_unpacked {number : UnpackedFloat} (h : number.isFinite = true) :
    number.isNaN = false := by
  rcases eq_zero_or_eq_finite h with ⟨_, rfl⟩ | ⟨_, _, _, _, rfl⟩ <;> rfl

theorem isFinite_or_infinity {number : UnpackedFloat} (h : number.isNaN = false) :
    number.isFinite = true ∨ ∃ sign, number = .infinity sign := by
  cases number with
  | notANumber => cases h
  | infinity sign => exact .inr ⟨sign, rfl⟩
  | zero => exact .inl rfl
  | finite => exact .inl rfl

theorem isNaN_sub_unpacked {a b : UnpackedFloat} (ha : a.isNaN = false) (hb : b.isFinite = true) :
    (UnpackedFloat.sub format a b).isNaN = false := by
  rcases eq_zero_or_eq_finite hb with ⟨sign, rfl⟩ | ⟨sign, m, e, pos, rfl⟩
  · cases a with
    | notANumber => exact ha
    | infinity => rfl
    | zero sign' => cases sign <;> cases sign' <;> rfl
    | finite => rfl
  · cases a with
    | notANumber => exact ha
    | infinity => rfl
    | zero => rfl
    | finite => exact isNaN_normalize ..

theorem isNaN_mul_finite {a : UnpackedFloat} (ha : a.isNaN = false) (sign : Sign) (m : Nat) (e : Int)
    (pos : 0 < m) : (UnpackedFloat.mul format a (.finite sign m e pos)).isNaN = false := by
  cases a with
  | notANumber => exact ha
  | infinity => rfl
  | zero => rfl
  | finite => exact isNaN_roundWithAccuracy ..

/-! ## Single precision -/

variable {a b : Float32}

theorem isNaN_pack {number : UnpackedFloat} (h : number.isNaN = false) :
    (Float32.ofModel (.pack number)).isNaN = false :=
  isNaN_unpack_pack h

theorem isNaN_sub (ha : a.isNaN = false) (hb : b.isFinite = true) : (a - b).isNaN = false :=
  isNaN_pack (isNaN_sub_unpacked ha hb)

theorem unpack_zero : (0 : Float32).toModel.unpack = .zero .positive := by rfl

/-- A zero of either sign is at most zero. -/
theorem le_zero_of_unpack {sign : Sign} (h : a.toModel.unpack = .zero sign) : a ≤ 0 := by
  have hrank : rank a = rank 0 := by simp only [rank, h, unpack_zero, rankUnpacked]
  have hnum : a.isNaN = false := congrArg UnpackedFloat.isNaN h
  exact le_iff_rank.2 ⟨hnum, congrArg UnpackedFloat.isNaN unpack_zero, hrank.le⟩

/-- What is finite is a number. -/
theorem isNaN_of_isFinite {x : Float32} (h : x.isFinite = true) : x.isNaN = false :=
  isNaN_of_isFinite_unpacked h

/-- A finite number is positive if it is not at most zero. -/
theorem not_le_zero_iff {x : Float32} (h : x.isFinite = true) : ¬x ≤ 0 ↔ 0 < x := by
  have hx : x.isNaN = false := isNaN_of_isFinite h
  rw [← not_lt_iff rfl hx, not_not]

/-- Multiplication by a finite positive number leads from numbers to numbers. -/
theorem isNaN_mul (ha : a.isNaN = false) (hb : b.isFinite = true) (pos : ¬b ≤ 0) :
    (a * b).isNaN = false := by
  apply isNaN_pack
  rcases eq_zero_or_eq_finite hb with ⟨sign, hz⟩ | ⟨sign, m, e, hm, hf⟩
  · exact absurd (le_zero_of_unpack hz) pos
  · rw [hf]
    exact isNaN_mul_finite ha sign m e hm

theorem isNaN_ofUInt8 (raw : UInt8) : raw.toFloat32.isNaN = false :=
  isNaN_pack (isNaN_normalize ..)

end FrameDetect.Number
