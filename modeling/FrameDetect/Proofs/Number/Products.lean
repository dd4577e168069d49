import FrameDetect.Proofs.Number.Extended

/-!
# Products and quotients with infinities

What is not a number has the value zero, and so has the product of zero and an infinity.  With this the value
of any product is the nearest one to the product of the values, and likewise for quotients, as long as nothing
is divided by zero.  Signs can therefore be told from values, without regard to what overflows on the way.
-/

namespace FrameDetect.Number

open Float.Model (Format UnpackedFloat)
open Float.Model.UnpackedFloat

variable {a b : UnpackedFloat}

/-! ## Nearest numbers -/

@[simp] theorem roundedValue_zero : roundedValue 0 = 0 := by
  rw [← EReal.coe_zero, roundedValue_coe, rounded, nearest_zero, saturated_of_abs_lt (by norm_num)]

@[simp] theorem roundedValue_infinity (sign : Sign) :
    roundedValue (valueUnpacked (.infinity sign)) = valueUnpacked (.infinity sign) := by
  cases sign with
  | positive => exact roundedValue_top
  | negative => exact roundedValue_bot

theorem roundedValue_nonneg {v : EReal} (h : 0 ≤ v) : 0 ≤ roundedValue v :=
  roundedValue_zero.symm.trans_le (roundedValue_mono h)

theorem roundedValue_nonpos {v : EReal} (h : v ≤ 0) : roundedValue v ≤ 0 :=
  (roundedValue_mono h).trans_eq roundedValue_zero

/-- An unpacked number that is the nearest one to a value. -/
structure Rounds (number : UnpackedFloat) (v : EReal) : Prop where
  canonical : Canonical number
  value : valueUnpacked (settled number) = roundedValue v

theorem rounds_notANumber : Rounds .notANumber 0 := ⟨trivial, roundedValue_zero.symm⟩

theorem rounds_zero (sign : Sign) : Rounds (.zero sign) 0 := ⟨trivial, roundedValue_zero.symm⟩

theorem rounds_infinity (sign : Sign) : Rounds (.infinity sign) (valueUnpacked (.infinity sign)) :=
  ⟨trivial, (roundedValue_infinity sign).symm⟩

theorem StandsFor.rounds {number : UnpackedFloat} {r : ℝ} (h : StandsFor number (nearest r)) :
    Rounds number r := by
  refine ⟨h.canonical, ?_⟩
  rw [valueUnpacked_settled h.canonical h.finite, h.real, roundedValue_coe, rounded]

theorem Rounds.value_pack {number : UnpackedFloat} {v : EReal} (h : Rounds number v) :
    Number.value (.ofModel (.pack number)) = roundedValue v := by
  rw [← h.value, ← unpack_pack h.canonical]
  rfl

/-! ## Products -/

theorem infinity_mul_infinity (s₁ s₂ : Sign) :
    valueUnpacked (.infinity s₁) * valueUnpacked (.infinity s₂) =
      valueUnpacked (.infinity (s₁ * s₂)) := by
  cases s₁ <;> cases s₂
  · exact EReal.bot_mul_bot
  · exact EReal.bot_mul_top
  · exact EReal.top_mul_bot
  · exact EReal.top_mul_top

theorem infinity_mul_finite (s₁ s₂ : Sign) (m : ℕ) (e : ℤ) (pos : 0 < m) :
    valueUnpacked (.infinity s₁) * valueUnpacked (.finite s₂ m e pos) =
      valueUnpacked (.infinity (s₁ * s₂)) := by
  have hpos := realUnpacked_pos m e pos
  have hneg := realUnpacked_neg m e pos
  cases s₁ <;> cases s₂
  · exact EReal.bot_mul_coe_of_neg hneg
  · exact EReal.bot_mul_coe_of_pos hpos
  · exact EReal.top_mul_coe_of_neg hneg
  · exact EReal.top_mul_coe_of_pos hpos

theorem finite_mul_infinity (s₁ s₂ : Sign) (m : ℕ) (e : ℤ) (pos : 0 < m) :
    valueUnpacked (.finite s₁ m e pos) * valueUnpacked (.infinity s₂) =
      valueUnpacked (.infinity (s₁ * s₂)) := by
  have hsign : s₁ * s₂ = s₂ * s₁ := by cases s₁ <;> cases s₂ <;> rfl
  rw [mul_comm, infinity_mul_finite, hsign]

theorem rounds_mul (ha : Canonical a) (hb : Canonical b) :
    Rounds (UnpackedFloat.mul .binary32 a b) (valueUnpacked a * valueUnpacked b) := by
  cases a with
  | notANumber =>
    rw [valueUnpacked_notANumber, zero_mul]
    exact rounds_notANumber
  | infinity s₁ =>
    cases b with
    | notANumber =>
      rw [valueUnpacked_notANumber, mul_zero]
      exact rounds_notANumber
    | infinity s₂ =>
      rw [infinity_mul_infinity]
      exact rounds_infinity _
    | zero s₂ =>
      rw [valueUnpacked_zero, mul_zero]
      exact rounds_notANumber
    | finite s₂ m e pos =>
      rw [infinity_mul_finite]
      exact rounds_infinity _
  | zero s₁ =>
    rw [valueUnpacked_zero, zero_mul]
    cases b with
    | notANumber => exact rounds_notANumber
    | infinity s₂ => exact rounds_notANumber
    | zero s₂ => exact rounds_zero _
    | finite s₂ m e pos => exact rounds_zero _
  | finite s₁ m e pos =>
    cases b with
    | notANumber =>
      rw [valueUnpacked_notANumber, mul_zero]
      exact rounds_notANumber
    | infinity s₂ =>
      rw [finite_mul_infinity]
      exact rounds_infinity _
    | zero s₂ =>
      rw [valueUnpacked_zero, mul_zero]
      exact rounds_zero _
    | finite s₂ m' e' pos' =>
      rw [valueUnpacked_finite, valueUnpacked_finite, ← EReal.coe_mul]
      exact (standsFor_mul ha hb rfl rfl).rounds

/-! ## Quotients -/

theorem div_infinity (v : EReal) (sign : Sign) : v / valueUnpacked (.infinity sign) = 0 := by
  cases sign with
  | positive => exact EReal.div_top
  | negative => exact EReal.div_bot

theorem infinity_div_finite (s₁ s₂ : Sign) (m : ℕ) (e : ℤ) (pos : 0 < m) :
    valueUnpacked (.infinity s₁) / valueUnpacked (.finite s₂ m e pos) =
      valueUnpacked (.infinity (s₁ / s₂)) := by
  have hpos := EReal.coe_pos.2 (realUnpacked_pos m e pos)
  have hneg := EReal.coe_neg'.2 (realUnpacked_neg m e pos)
  cases s₁ <;> cases s₂
  · exact EReal.bot_div_of_neg_ne_bot hneg (EReal.coe_ne_bot _)
  · exact EReal.bot_div_of_pos_ne_top hpos (EReal.coe_ne_top _)
  · exact EReal.top_div_of_neg_ne_bot hneg (EReal.coe_ne_bot _)
  · exact EReal.top_div_of_pos_ne_top hpos (EReal.coe_ne_top _)

/-- Nothing is divided by zero. -/
theorem rounds_div (hb : ∀ sign, b ≠ .zero sign) :
    Rounds (UnpackedFloat.div .binary32 a b) (valueUnpacked a / valueUnpacked b) := by
  cases b with
  | notANumber =>
    rw [valueUnpacked_notANumber, EReal.div_zero]
    cases a <;> exact rounds_notANumber
  | infinity s₂ =>
    rw [div_infinity]
    cases a with
    | notANumber => exact rounds_notANumber
    | infinity s₁ => exact rounds_notANumber
    | zero s₁ => exact rounds_zero _
    | finite s₁ m e pos => exact rounds_zero _
  | zero s₂ => exact absurd rfl (hb s₂)
  | finite s₂ m' e' pos' =>
    cases a with
    | notANumber =>
      rw [valueUnpacked_notANumber, EReal.zero_div]
      exact rounds_notANumber
    | infinity s₁ =>
      rw [infinity_div_finite]
      exact rounds_infinity _
    | zero s₁ =>
      rw [valueUnpacked_zero, EReal.zero_div]
      exact rounds_zero _
    | finite s₁ m e pos =>
      have hne : realUnpacked (.finite s₂ m' e' pos') ≠ 0 := by
        cases s₂ with
        | positive => exact (realUnpacked_pos m' e' pos').ne'
        | negative => exact (realUnpacked_neg m' e' pos').ne
      rw [valueUnpacked_finite, valueUnpacked_finite, ← EReal.coe_div]
      exact (standsFor_div rfl rfl hne).rounds

/-! ## Single precision -/

variable {x y : Float32}

theorem value_mul (x y : Float32) : value (x * y) = roundedValue (value x * value y) :=
  (rounds_mul (canonical_toModel x).1 (canonical_toModel y).1).value_pack

theorem value_div (x : Float32) (h : ¬y ≤ 0) : value (x / y) = roundedValue (value x / value y) := by
  have hy : ∀ sign, y.toModel.unpack ≠ .zero sign := fun _ hzero => h (le_zero_of_unpack hzero)
  exact (rounds_div hy).value_pack

theorem value_of_isNaN (hx : x.isNaN = true) : value x = 0 := by
  change x.toModel.unpack.isNaN = true at hx
  rw [value]
  cases hu : x.toModel.unpack with
  | notANumber => rfl
  | _ =>
    rw [hu] at hx
    cases hx

theorem zero_le_iff : 0 ≤ x ↔ x.isNaN = false ∧ 0 ≤ value x := by
  rw [le_iff_value, value_zero]
  exact and_iff_right rfl

/-- What is not at most zero is positive or not a number. -/
theorem value_nonneg_of_not_le (h : ¬x ≤ 0) : 0 ≤ value x := by
  cases hx : x.isNaN with
  | true => exact (value_of_isNaN hx).ge
  | false =>
    rw [le_iff_value, value_zero] at h
    by_contra hneg
    exact h ⟨hx, rfl, (not_le.1 hneg).le⟩

theorem value_mul_nonneg (hx : 0 ≤ value x) (hy : 0 ≤ value y) : 0 ≤ value (x * y) := by
  rw [value_mul]
  exact roundedValue_nonneg (mul_nonneg hx hy)

theorem value_div_nonneg (hx : 0 ≤ value x) (hy : ¬y ≤ 0) : 0 ≤ value (x / y) := by
  rw [value_div x hy]
  exact roundedValue_nonneg (EReal.div_nonneg hx (value_nonneg_of_not_le hy))

end FrameDetect.Number
