import FrameDetect.Number.Order
import FrameDetect.Proofs.Number.Products
import FrameDetect.Proofs.Number.SignedZero

/-!
# Results that are no numbers

A product of numbers is no number just if an infinity is multiplied by a zero, a sum just if opposite infinities are
added, and a difference just if equal infinities are subtracted.  What is no number stays so in all that is computed
from it.
-/

namespace FrameDetect.Number

open Float.Model (Format UnpackedFloat)
open Float.Model.UnpackedFloat

/-! ## Unpacked numbers -/

variable {a b : UnpackedFloat} {format : Format}

theorem isNaN_pack_eq (number : UnpackedFloat) : (Float32.ofModel (.pack number)).isNaN = number.isNaN := by
  cases h : number.isNaN with
  | false => exact isNaN_pack h
  | true =>
    cases number with
    | notANumber => rfl
    | _ => cases h

theorem eq_notANumber (h : a.isNaN = true) : a = .notANumber := by
  cases a with
  | notANumber => rfl
  | _ => cases h

theorem isNaN_mul_unpacked_iff : (UnpackedFloat.mul format a b).isNaN = true ↔
    a.isNaN = true ∨ b.isNaN = true ∨ (a.isInf = true ∧ ∃ sign, b = .zero sign) ∨
      (∃ sign, a = .zero sign) ∧ b.isInf = true := by
  cases a with
  | finite s₁ m₁ e₁ pos₁ =>
    cases b with
    | finite s₂ m₂ e₂ pos₂ =>
      have hproduct : (UnpackedFloat.mul format (.finite s₁ m₁ e₁ pos₁) (.finite s₂ m₂ e₂ pos₂)).isNaN = false :=
        isNaN_roundWithAccuracy ..
      rw [hproduct]
      simp [UnpackedFloat.isNaN, UnpackedFloat.isInf]
    | _ => simp [UnpackedFloat.mul, UnpackedFloat.isNaN, UnpackedFloat.isInf]
  | _ => cases b <;> simp [UnpackedFloat.mul, UnpackedFloat.isNaN, UnpackedFloat.isInf]

theorem isNaN_add_unpacked (h : a.isNaN = true ∨ b.isNaN = true) :
    (UnpackedFloat.add format a b).isNaN = true := by
  rcases h with h | h
  · rw [eq_notANumber h]
    rfl
  · rw [eq_notANumber h]
    cases a <;> rfl

/-- Division by a finite number other than zero leads from numbers to numbers. -/
theorem isNaN_div_finite (ha : a.isNaN = false) (sign : Sign) (m : ℕ) (e : ℤ) (pos : 0 < m) :
    (UnpackedFloat.div format a (.finite sign m e pos)).isNaN = false := by
  cases a with
  | notANumber => exact ha
  | infinity => rfl
  | zero => rfl
  | finite => exact isNaN_roundWithAccuracy ..

theorem isNaN_div_unpacked (h : b.isNaN = true) : (UnpackedFloat.div format a b).isNaN = true := by
  rw [eq_notANumber h]
  cases a <;> rfl

/-- Zero over a number other than zero is zero. -/
theorem zero_div_unpacked (format : Format) (sign : Sign) (hb : b.isNaN = false) (hzero : ∀ sign, b ≠ .zero sign) :
    ∃ sign', UnpackedFloat.div format (.zero sign) b = .zero sign' := by
  cases b with
  | notANumber => cases hb
  | infinity sign' => exact ⟨_, rfl⟩
  | zero sign' => exact absurd rfl (hzero sign')
  | finite sign' m e pos => exact ⟨_, rfl⟩

/-! ## Single precision -/

variable {x y : Float32}

/-- A zero has either sign. -/
theorem beq_zero_iff : (x == 0) = true ↔ ∃ sign, x.toModel.unpack = .zero sign := by
  constructor
  · intro h
    obtain ⟨hx, -, hrank⟩ := beq_iff_rank.1 h
    rcases (AlikeUnpacked.of_rank hx (congrArg UnpackedFloat.isNaN unpack_zero) hrank).eq_or_zeros with
      hsame | ⟨sign, -, hzero, -⟩
    · exact ⟨.positive, hsame.trans unpack_zero⟩
    · exact ⟨sign, hzero⟩
  · rintro ⟨sign, hx⟩
    refine beq_iff_value.2 ⟨congrArg UnpackedFloat.isNaN hx, hasValue_zero.isNaN, ?_⟩
    rw [value, hx, value_zero, valueUnpacked_zero]

theorem isInf_of_beq_zero (h : (x == 0) = true) : x.isInf = false := by
  obtain ⟨sign, hzero⟩ := beq_zero_iff.1 h
  exact congrArg UnpackedFloat.isInf hzero

theorem isNaN_mul_iff : (x * y).isNaN = true ↔ x.isNaN = true ∨ y.isNaN = true ∨
    (x.isInf = true ∧ (y == 0) = true) ∨ (x == 0) = true ∧ y.isInf = true := by
  rw [beq_zero_iff, beq_zero_iff]
  show (Float32.ofModel (.pack (UnpackedFloat.mul .binary32 x.toModel.unpack y.toModel.unpack))).isNaN = true ↔ _
  rw [isNaN_pack_eq, isNaN_mul_unpacked_iff]
  rfl

theorem isNaN_add_iff : (x + y).isNaN = true ↔ x.isNaN = true ∨ y.isNaN = true ∨
    x.isInf = true ∧ y.isInf = true ∧ (x == y) = false := by
  by_cases h : x.isNaN = true ∨ y.isNaN = true
  · have hsum : (x + y).isNaN = true := (isNaN_pack_eq _).trans (isNaN_add_unpacked h)
    rw [← or_assoc]
    exact iff_of_true hsum (.inl h)
  · simp only [not_or, Bool.not_eq_true] at h
    rw [(roundsSum_add h.1 h.2).isNaN_iff, opposed_iff h.1 h.2, h.1, h.2]
    simp only [Bool.false_eq_true, false_or]

/-- What is no number leaves no number when it is subtracted from. -/
theorem isNaN_sub_of_left (hx : x.isNaN = true) : (x - y).isNaN = true := by
  show (Float32.ofModel (.pack (UnpackedFloat.sub .binary32 x.toModel.unpack y.toModel.unpack))).isNaN = true
  rw [isNaN_pack_eq, sub_eq_add_opposite]
  exact isNaN_add_unpacked (.inl hx)

theorem isNaN_sub_of_right (hy : y.isNaN = true) : (x - y).isNaN = true := by
  show (Float32.ofModel (.pack (UnpackedFloat.sub .binary32 x.toModel.unpack y.toModel.unpack))).isNaN = true
  rw [isNaN_pack_eq, sub_eq_add_opposite]
  exact isNaN_add_unpacked (.inr ((isNaN_neg _).trans hy))

/-- A zero can be subtracted from any number. -/
theorem isNaN_sub_zero (hx : x.isNaN = false) (hy : (y == 0) = true) : (x - y).isNaN = false := by
  obtain ⟨sign, hzero⟩ := beq_zero_iff.1 hy
  exact isNaN_sub hx (congrArg UnpackedFloat.isFinite hzero)

theorem isNaN_div (hx : x.isNaN = false) (hy : y.isFinite = true) (pos : ¬y ≤ 0) : (x / y).isNaN = false := by
  apply isNaN_pack
  rcases eq_zero_or_eq_finite hy with ⟨sign, hz⟩ | ⟨sign, m, e, hm, hf⟩
  · exact absurd (le_zero_of_unpack hz) pos
  · rw [hf]
    exact isNaN_div_finite hx sign m e hm

theorem isNaN_div_of_right (hy : y.isNaN = true) : (x / y).isNaN = true :=
  (isNaN_pack_eq _).trans (isNaN_div_unpacked hy)

/-- Zero over a positive number is zero. -/
theorem zero_div_beq (hx : (x == 0) = true) (hy : y.isNaN = false) (hpos : ¬y ≤ 0) : (x / y == 0) = true := by
  obtain ⟨sign, hzero⟩ := beq_zero_iff.1 hx
  have hne : ∀ sign, y.toModel.unpack ≠ .zero sign := fun _ h => hpos (le_zero_of_unpack h)
  obtain ⟨sign', hquotient⟩ := zero_div_unpacked .binary32 sign hy hne
  rw [← hzero] at hquotient
  refine beq_zero_iff.2 ⟨sign', ?_⟩
  change unpack .binary32 (pack .binary32 (div .binary32 x.toModel.unpack y.toModel.unpack)) = _
  rw [hquotient]
  cases sign' <;> rfl

/-! ## Scaling -/

/-- Multiplying by a positive number keeps the order, infinities included. -/
theorem mul_le_mul_positive {z : Float32} {r : ℝ} (h : x ≤ y) (hz : HasValue z r) (pos : 0 < r) : x * z ≤ y * z := by
  obtain ⟨hx, hy, hvalue⟩ := le_iff_value.1 h
  have hnot : ¬z ≤ 0 := fun hle => not_le.2 pos ((hz.le_iff hasValue_zero).1 hle)
  refine le_iff_value.2 ⟨isNaN_mul hx hz.finite hnot, isNaN_mul hy hz.finite hnot, ?_⟩
  rw [value_mul, value_mul, hz.value_eq]
  exact roundedValue_mono (mul_le_mul_of_nonneg_right hvalue (EReal.coe_nonneg.2 pos.le))

/-- Dividing by a positive number keeps the order, infinities included. -/
theorem div_le_div_positive {z : Float32} {r : ℝ} (h : x ≤ y) (hz : HasValue z r) (pos : 0 < r) : x / z ≤ y / z := by
  obtain ⟨hx, hy, hvalue⟩ := le_iff_value.1 h
  have hnot : ¬z ≤ 0 := fun hle => not_le.2 pos ((hz.le_iff hasValue_zero).1 hle)
  refine le_iff_value.2 ⟨isNaN_div hx hz.finite hnot, isNaN_div hy hz.finite hnot, ?_⟩
  rw [value_div _ hnot, value_div _ hnot, hz.value_eq]
  exact roundedValue_mono (EReal.monotone_div_right_of_nonneg (EReal.coe_nonneg.2 pos.le) hvalue)

/-! ## The lesser and the greater -/

theorem value_lesser (hx : x.isNaN = false) (hy : y.isNaN = false) :
    (lesser x y).isNaN = false ∧ value (lesser x y) = min (value x) (value y) := by
  have hlt : y < x ↔ value y < value x := by
    rw [lt_iff_value]
    exact ⟨fun h => h.2.2, fun h => ⟨hy, hx, h⟩⟩
  rw [lesser, if_neg (Bool.eq_false_iff.1 hx), if_neg (Bool.eq_false_iff.1 hy)]
  by_cases h : y < x
  · rw [if_pos h]
    exact ⟨hy, (min_eq_right (hlt.1 h).le).symm⟩
  · rw [if_neg h]
    exact ⟨hx, (min_eq_left (not_lt.1 (mt hlt.2 h))).symm⟩

theorem value_greater (hx : x.isNaN = false) (hy : y.isNaN = false) :
    (greater x y).isNaN = false ∧ value (greater x y) = max (value x) (value y) := by
  have hlt : x < y ↔ value x < value y := by
    rw [lt_iff_value]
    exact ⟨fun h => h.2.2, fun h => ⟨hx, hy, h⟩⟩
  rw [greater, if_neg (Bool.eq_false_iff.1 hx), if_neg (Bool.eq_false_iff.1 hy)]
  by_cases h : x < y
  · rw [if_pos h]
    exact ⟨hy, (max_eq_right (hlt.1 h).le).symm⟩
  · rw [if_neg h]
    exact ⟨hx, (max_eq_left (not_lt.1 (mt hlt.2 h))).symm⟩

end FrameDetect.Number
