import FrameDetect.Proofs.Number.Arithmetic

/-!
# Sums and differences with infinities

Infinities add up as values do, except that opposite ones have no sum.  A sum or a difference that is a
number is the nearest one to that of the values, be they finite or not.
-/

namespace FrameDetect.Number

open Float.Model (Format UnpackedFloat)
open Float.Model.UnpackedFloat

/-! ## Rounding of values -/

/-- The value of the single precision number that is nearest to any value. -/
noncomputable def roundedValue (v : EReal) : EReal :=
  if v = ⊤ then ⊤ else if v = ⊥ then ⊥ else rounded v.toReal

@[simp] theorem roundedValue_top : roundedValue ⊤ = ⊤ := if_pos rfl

@[simp] theorem roundedValue_bot : roundedValue ⊥ = ⊥ := by simp [roundedValue]

@[simp] theorem roundedValue_coe (r : ℝ) : roundedValue r = rounded r := by simp [roundedValue]

theorem roundedValue_mono : Monotone roundedValue := by
  intro v w h
  induction v with
  | bot => exact roundedValue_bot.trans_le bot_le
  | top => rw [top_le_iff.1 h]
  | coe r =>
    induction w with
    | bot => exact absurd (le_bot_iff.1 h) (EReal.coe_ne_bot r)
    | top => exact le_top.trans_eq roundedValue_top.symm
    | coe s =>
      rw [roundedValue_coe, roundedValue_coe]
      exact rounded_mono (EReal.coe_le_coe_iff.1 h)

/-! ## Sums of unpacked numbers -/

variable {a b : UnpackedFloat}

theorem valueUnpacked_neg_eq (b : UnpackedFloat) : valueUnpacked b.neg = -valueUnpacked b := by
  rcases b with (_ | _) | _ | _ | ⟨sign, m, e, pos⟩
  · exact EReal.neg_bot.symm
  · exact EReal.neg_top.symm
  · exact neg_zero.symm
  · exact neg_zero.symm
  · rw [valueUnpacked_finite, ← EReal.coe_neg, ← realUnpacked_neg_eq]
    rfl

/-- Two values that have no sum. -/
def Opposed (v w : EReal) : Prop := v = ⊤ ∧ w = ⊥ ∨ v = ⊥ ∧ w = ⊤

theorem not_opposed_coe (r : ℝ) (v : EReal) : ¬Opposed r v ∧ ¬Opposed v r := by
  simp [Opposed]

/-- What adding comes to: opposed infinities give no number, and all else is rounded. -/
theorem add_unpacked (ha : Canonical a) (hb : Canonical b) (na : a.isNaN = false) (nb : b.isNaN = false) :
    UnpackedFloat.add .binary32 a b = .notANumber ∧ Opposed (valueUnpacked a) (valueUnpacked b) ∨
    ((UnpackedFloat.add .binary32 a b).isNaN = false ∧ Canonical (UnpackedFloat.add .binary32 a b)) ∧
      ¬Opposed (valueUnpacked a) (valueUnpacked b) ∧
      valueUnpacked (settled (UnpackedFloat.add .binary32 a b)) =
        roundedValue (valueUnpacked a + valueUnpacked b) := by
  rcases isFinite_or_infinity na with hfa | ⟨s₁, rfl⟩ <;>
    rcases isFinite_or_infinity nb with hfb | ⟨s₂, rfl⟩
  · have h := standsFor_add ha hb hfa hfb
    rw [valueUnpacked_of_isFinite hfa, valueUnpacked_of_isFinite hfb, ← EReal.coe_add, roundedValue_coe,
      valueUnpacked_settled h.canonical h.finite, h.real]
    exact .inr ⟨⟨isNaN_of_isFinite_unpacked h.finite, h.canonical⟩, (not_opposed_coe _ _).1, rfl⟩
  · have hsum : UnpackedFloat.add .binary32 a (.infinity s₂) = .infinity s₂ := by
      rcases eq_zero_or_eq_finite hfa with ⟨_, rfl⟩ | ⟨_, _, _, _, rfl⟩ <;> rfl
    rw [hsum, valueUnpacked_of_isFinite hfa]
    refine .inr ⟨⟨rfl, trivial⟩, (not_opposed_coe _ _).1, ?_⟩
    cases s₂ <;> simp [settled]
  · have hsum : UnpackedFloat.add .binary32 (.infinity s₁) b = .infinity s₁ := by
      rcases eq_zero_or_eq_finite hfb with ⟨_, rfl⟩ | ⟨_, _, _, _, rfl⟩ <;> rfl
    rw [hsum, valueUnpacked_of_isFinite hfb]
    refine .inr ⟨⟨rfl, trivial⟩, (not_opposed_coe _ _).2, ?_⟩
    cases s₁ <;> simp [settled]
  · cases s₁ <;> cases s₂
    · exact .inr ⟨⟨rfl, trivial⟩, by simp [Opposed], by simp [UnpackedFloat.add, settled]⟩
    · exact .inl ⟨rfl, .inr ⟨rfl, rfl⟩⟩
    · exact .inl ⟨rfl, .inl ⟨rfl, rfl⟩⟩
    · exact .inr ⟨⟨rfl, trivial⟩, by simp [Opposed], by simp [UnpackedFloat.add, settled]⟩

/-! ## Single precision -/

/-- A sum of two values in single precision: no number just if they are opposed, and else the nearest
one. -/
structure RoundsSum (sum : Float32) (v w : EReal) : Prop where
  isNaN_iff : sum.isNaN = true ↔ Opposed v w
  value_eq : sum.isNaN = false → value sum = roundedValue (v + w)

theorem roundsSum_pack (ha : Canonical a) (hb : Canonical b) (na : a.isNaN = false)
    (nb : b.isNaN = false) :
    RoundsSum (.ofModel (.pack (UnpackedFloat.add .binary32 a b))) (valueUnpacked a) (valueUnpacked b) := by
  rcases add_unpacked ha hb na nb with ⟨hsum, hopposed⟩ | ⟨⟨hsum, hcanonical⟩, hopposed, hvalue⟩
  · rw [hsum]
    exact ⟨iff_of_true rfl hopposed, fun h => absurd h (by decide)⟩
  · refine ⟨iff_of_false (Bool.eq_false_iff.1 (isNaN_pack hsum)) hopposed, fun _ => ?_⟩
    rw [← hvalue, ← unpack_pack hcanonical]
    rfl

variable {x y : Float32}

theorem roundsSum_add (hx : x.isNaN = false) (hy : y.isNaN = false) :
    RoundsSum (x + y) (value x) (value y) :=
  roundsSum_pack (canonical_toModel x).1 (canonical_toModel y).1 hx hy

theorem isNaN_neg (b : UnpackedFloat) : b.neg.isNaN = b.isNaN := by
  cases b <;> rfl

theorem roundsSum_sub (hx : x.isNaN = false) (hy : y.isNaN = false) :
    RoundsSum (x - y) (value x) (-value y) := by
  have h := roundsSum_pack (canonical_toModel x).1 (canonical_neg (canonical_toModel y).1) hx
    ((isNaN_neg _).trans hy)
  rw [← sub_eq_add_opposite, valueUnpacked_neg_eq] at h
  exact h

/-- A finite number lies below the power of two at which single precision ends. -/
theorem abs_real_lt (hx : x.isFinite = true) : |real x| < 2 ^ 128 := by
  have h := rounded_real hx
  rw [rounded, (representable_real hx).nearest_eq, value_of_isFinite hx, saturated] at h
  split_ifs at h with htop hbot
  · exact absurd h.symm (EReal.coe_ne_top _)
  · exact absurd h.symm (EReal.coe_ne_bot _)
  · exact abs_lt.2 ⟨not_le.1 hbot, not_le.1 htop⟩

/-- Half of a finite number is finite, and half of an infinity is that infinity. -/
theorem half_cases (hx : x.isNaN = false) :
    (∃ r, HasValue x r ∧ HasValue (x / 2) (nearest (r / 2))) ∨
      ∃ sign, x.toModel.unpack = .infinity sign ∧ (x / 2).toModel.unpack = .infinity sign := by
  rcases isFinite_or_infinity hx with hfinite | ⟨sign, hinf⟩
  · have hvalue : HasValue x (real x) := ⟨hfinite, rfl⟩
    refine .inl ⟨real x, hvalue, hvalue.div hasValue_two two_ne_zero ?_⟩
    rw [abs_div, abs_two]
    linarith [abs_real_lt hfinite]
  · refine .inr ⟨sign, hinf, ?_⟩
    have htwo : (2 : Float32).toModel.unpack = .finite .positive 8388608 (-22) (by decide) := rfl
    change unpack .binary32
      (pack .binary32 (div .binary32 x.toModel.unpack (2 : Float32).toModel.unpack)) = _
    rw [hinf, htwo]
    cases sign <;> rfl

theorem isNaN_half (hx : x.isNaN = false) : (x / 2).isNaN = false := by
  rcases half_cases hx with ⟨r, -, h⟩ | ⟨sign, -, h⟩
  · exact h.isNaN
  · exact congrArg UnpackedFloat.isNaN h

/-- A number is half of an infinity just if it is half of that infinity. -/
theorem value_half_iff (hx : x.isNaN = false) {v : EReal} (hv : v = ⊤ ∨ v = ⊥) :
    value (x / 2) = v ↔ value x = v := by
  rcases half_cases hx with ⟨r, hr, hhalf⟩ | ⟨sign, hinf, hhalf⟩
  · rw [hr.value_eq, hhalf.value_eq]
    rcases hv with rfl | rfl <;> simp
  · rw [value, value, hinf, hhalf]

theorem isInf_iff_value (hx : x.isNaN = false) : x.isInf = true ↔ value x = ⊤ ∨ value x = ⊥ := by
  change x.toModel.unpack.isNaN = false at hx
  change x.toModel.unpack.isInf = true ↔
    valueUnpacked x.toModel.unpack = ⊤ ∨ valueUnpacked x.toModel.unpack = ⊥
  rcases isFinite_or_infinity hx with hfinite | ⟨sign, hinf⟩
  · rw [valueUnpacked_of_isFinite hfinite]
    rcases eq_zero_or_eq_finite hfinite with ⟨_, hu⟩ | ⟨_, _, _, _, hu⟩ <;>
      simp [hu, UnpackedFloat.isInf]
  · cases sign <;> simp [hinf, UnpackedFloat.isInf]

theorem beq_iff_of_numbers (hx : x.isNaN = false) (hy : y.isNaN = false) :
    (x == y) = true ↔ value x = value y :=
  beq_iff_value.trans ⟨fun h => h.2.2, fun h => ⟨hx, hy, h⟩⟩

theorem opposed_iff (hx : x.isNaN = false) (hy : y.isNaN = false) :
    Opposed (value x) (value y) ↔ x.isInf = true ∧ y.isInf = true ∧ (x == y) = false := by
  rw [Opposed, isInf_iff_value hx, isInf_iff_value hy, ← Bool.not_eq_true, beq_iff_of_numbers hx hy]
  constructor
  · rintro (⟨hx, hy⟩ | ⟨hx, hy⟩) <;> simp [hx, hy]
  · rintro ⟨hx | hx, hy | hy, hne⟩ <;> simp [hx, hy] at hne ⊢

end FrameDetect.Number
