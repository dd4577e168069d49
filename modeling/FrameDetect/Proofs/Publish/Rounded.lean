import FrameDetect.Proofs.Number.HalfAway
import FrameDetect.Proofs.Settings.Checked
import FrameDetect.Publish.Event

/-!
# Numbers with three places

Rounding to three places multiplies by a thousand, takes the nearest integer and divides again.  Each of these keeps
the order of numbers, and so does all of it.  Neither the product nor the quotient is exact, but between zero and one
they are off by so little that a rounded number leads back to the integer that it came from.
-/

namespace FrameDetect.Publish

open FrameDetect.Detect (Corners)
open FrameDetect.Number
open Float.Model.UnpackedFloat

variable {x y : Float32} {r : ℝ}

theorem unpack_thousand : (1000 : Float32).toModel.unpack = .finite .positive 16384000 (-14) (by decide) := rfl

theorem hasValue_thousand : HasValue 1000 1000 := hasValue_of_unpack_positive unpack_thousand (by norm_num)

/-! ## Order -/

/-- The order of numbers is kept, infinities included. -/
theorem round3_mono (h : x ≤ y) : round3 x ≤ round3 y := by
  have hproduct := mul_le_mul_positive h hasValue_thousand (by norm_num)
  exact div_le_div_positive (roundAway_mono hproduct) hasValue_thousand (by norm_num)

/-- Zero and one stay where they are, and with them what is between them. -/
theorem inUnit_round3 (h : InUnit x) : InUnit (round3 x) := by
  have hzero : round3 0 = 0 := by decide +kernel
  have hone : round3 1 = 1 := by decide +kernel
  exact ⟨hzero ▸ round3_mono h.1, hone ▸ round3_mono h.2⟩

/-! ## Thousandths -/

/-- How many thousandths a real number is rounded to. -/
noncomputable def thousandths (r : ℝ) : ℤ := halfAway (nearest (r * 1000))

theorem thousandths_mem (hlow : 0 ≤ r) (hhigh : r ≤ 1) : 0 ≤ thousandths r ∧ thousandths r ≤ 1000 := by
  have hthousand : halfAway (nearest 1000) = 1000 := by
    have hexact : nearest 1000 = 1000 := nearest_natCast (by norm_num : 1000 ≤ 2 ^ 24)
    rw [hexact]
    exact halfAway_intCast 1000
  refine ⟨halfAway_nonneg (nearest_nonneg (by linarith)), ?_⟩
  rw [← hthousand]
  exact halfAway_mono (nearest_mono (by linarith))

/-- The product with a thousand is hardly rounded. -/
theorem abs_nearest_mul_thousand_sub_le (h : |r| ≤ 1) : |nearest (r * 1000) - r * 1000| ≤ 1 / 1000 := by
  have hproduct : |r * 1000| ≤ 1000 := by
    rw [abs_mul, abs_of_pos (by norm_num : (0 : ℝ) < 1000)]
    linarith
  exact (abs_nearest_sub_le_of_abs_le hproduct).trans (by norm_num)

theorem abs_thousandths_sub_le (h : |r| ≤ 1) : |(thousandths r : ℝ) - r * 1000| ≤ 501 / 1000 := by
  have hwhole : |(thousandths r : ℝ) - nearest (r * 1000)| ≤ 1 / 2 := abs_halfAway_sub_le _
  have hproduct := abs_nearest_mul_thousand_sub_le h
  have htriangle := abs_sub_le (thousandths r : ℝ) (nearest (r * 1000)) (r * 1000)
  linarith

variable {k : ℤ}

theorem abs_thousandth_le (hlow : 0 ≤ k) (hhigh : k ≤ 1000) : |(k : ℝ) / 1000| ≤ 1 := by
  have h0 : (0 : ℝ) ≤ k := by exact_mod_cast hlow
  have h1 : (k : ℝ) ≤ 1000 := by exact_mod_cast hhigh
  rw [abs_of_nonneg (by positivity)]
  linarith

theorem abs_nearest_thousandth_sub_le (hlow : 0 ≤ k) (hhigh : k ≤ 1000) :
    |nearest ((k : ℝ) / 1000) - k / 1000| ≤ 1 / 10 ^ 7 :=
  (abs_nearest_sub_le_of_abs_le (abs_thousandth_le hlow hhigh)).trans (by norm_num)

/-- A thousandth leads back to itself, though neither it nor its product with a thousand is exact. -/
theorem thousandths_nearest (hlow : 0 ≤ k) (hhigh : k ≤ 1000) : thousandths (nearest ((k : ℝ) / 1000)) = k := by
  have hquotient := abs_le.1 (abs_nearest_thousandth_sub_le hlow hhigh)
  have hunit : |nearest ((k : ℝ) / 1000)| ≤ 1 := by
    have hone : Representable 1 := by simpa using representable_intCast (k := 1) (by norm_num)
    exact hone.abs_nearest_le (abs_thousandth_le hlow hhigh)
  have hproduct := abs_le.1 (abs_nearest_mul_thousand_sub_le hunit)
  apply halfAway_eq_of_abs_lt
  rw [abs_lt]
  norm_num at hquotient hproduct ⊢
  constructor <;> linarith

/-- Between zero and one a number is taken to its thousandths. -/
theorem hasValue_round3 (hx : HasValue x r) (hlow : 0 ≤ r) (hhigh : r ≤ 1) :
    HasValue (round3 x) (nearest ((thousandths r : ℝ) / 1000)) := by
  obtain ⟨hnonneg, hle⟩ := thousandths_mem hlow hhigh
  have hproduct : HasValue (x * 1000) (nearest (r * 1000)) := by
    refine hx.mul hasValue_thousand ?_
    rw [abs_of_nonneg (by linarith)]
    exact (by linarith : r * 1000 ≤ 1000).trans (by norm_num)
  exact hproduct.roundAway.div hasValue_thousand (by norm_num) ((abs_thousandth_le hnonneg hle).trans (by norm_num))

/-! ## Numbers that are rounded -/

/-- Rounding moves a number by hardly more than half a thousandth. -/
theorem abs_real_round3_sub_le (hx : HasValue x r) (hlow : 0 ≤ r) (hhigh : r ≤ 1) :
    |real (round3 x) - real x| ≤ 51 / 100000 := by
  obtain ⟨hnonneg, hle⟩ := thousandths_mem hlow hhigh
  have hquotient := abs_le.1 (abs_nearest_thousandth_sub_le hnonneg hle)
  have hwhole := abs_le.1 (abs_thousandths_sub_le (abs_le.2 ⟨by linarith, hhigh⟩))
  rw [(hasValue_round3 hx hlow hhigh).real, hx.real, abs_le]
  norm_num at hquotient ⊢
  constructor <;> linarith

/-- Neither a product nor a quotient with a thousand changes a zero, or its sign. -/
theorem round3_of_zero {sign : Sign} (h : x.toModel.unpack = .zero sign) : round3 x = x := by
  have hproduct : x * 1000 = x := by
    apply eq_of_unpack_eq
    change unpack .binary32 (pack .binary32 (mul .binary32 x.toModel.unpack (1000 : Float32).toModel.unpack)) = _
    rw [h, unpack_thousand]
    cases sign <;> rfl
  have hquotient : x / 1000 = x := by
    apply eq_of_unpack_eq
    change unpack .binary32 (pack .binary32 (div .binary32 x.toModel.unpack (1000 : Float32).toModel.unpack)) = _
    rw [h, unpack_thousand]
    cases sign <;> rfl
  rw [round3, hproduct, roundAway_of_zero h, hquotient]

/-- Thousandths stay where they are, up to the sign of zero. -/
theorem hasValue_round3_thousandth (hx : HasValue x (nearest ((k : ℝ) / 1000))) (hlow : 0 ≤ k)
    (hhigh : k ≤ 1000) (hunit : InUnit x) : HasValue (round3 x) (nearest ((k : ℝ) / 1000)) := by
  obtain ⟨r, hr, h0, h1⟩ := hasValue_zero.exists_of_between hasValue_one hunit.1 hunit.2
  obtain rfl : r = nearest ((k : ℝ) / 1000) := hr.real.symm.trans hx.real
  have hvalue := hasValue_round3 hx h0 h1
  rwa [thousandths_nearest hlow hhigh] at hvalue

/-- What is rounded already stays. -/
theorem round3_round3 (h : InUnit x) : round3 (round3 x) = round3 x := by
  obtain ⟨r, hx, hlow, hhigh⟩ := hasValue_zero.exists_of_between hasValue_one h.1 h.2
  obtain ⟨hnonneg, hle⟩ := thousandths_mem hlow hhigh
  have hfirst := hasValue_round3 hx hlow hhigh
  have hsecond := hasValue_round3_thousandth hfirst hnonneg hle (inUnit_round3 h)
  by_cases hzero : nearest ((thousandths r : ℝ) / 1000) = 0
  · -- two zeros can differ in their sign, so that the value alone does not tell that they are the same
    rw [hzero] at hfirst
    have hbeq : (round3 x == 0) = true :=
      beq_iff_value.2 ⟨hfirst.isNaN, hasValue_zero.isNaN, hfirst.value_eq.trans value_zero.symm⟩
    obtain ⟨sign, hsign⟩ := beq_zero_iff.1 hbeq
    exact round3_of_zero hsign
  · exact hsecond.ext hfirst hzero

/-! ## Events -/

/-- Edges that are in the frame and in order. -/
structure Framed (corners : Corners) : Prop where
  left : 0 ≤ corners.left
  horizontal : corners.left ≤ corners.right
  right : corners.right ≤ 1
  top : 0 ≤ corners.top
  vertical : corners.top ≤ corners.bottom
  bottom : corners.bottom ≤ 1

variable {corners : Corners}

theorem Framed.inUnit (h : Framed corners) : ∀ edge ∈ corners.toList, InUnit edge := by
  rw [Corners.forall_mem_toList]
  exact ⟨⟨h.left, le_trans_le h.horizontal h.right⟩, ⟨h.top, le_trans_le h.vertical h.bottom⟩,
    ⟨le_trans_le h.left h.horizontal, h.right⟩, ⟨le_trans_le h.top h.vertical, h.bottom⟩⟩

theorem Framed.rounded (h : Framed corners) : Framed (corners.map round3) := by
  obtain ⟨hleft, htop, hright, hbottom⟩ := Corners.forall_mem_toList.1 h.inUnit
  exact ⟨(inUnit_round3 hleft).1, round3_mono h.horizontal, (inUnit_round3 hright).2, (inUnit_round3 htop).1,
    round3_mono h.vertical, (inUnit_round3 hbottom).2⟩

theorem Framed.rounded_rounded (h : Framed corners) : (corners.map round3).map round3 = corners.map round3 := by
  obtain ⟨hleft, htop, hright, hbottom⟩ := Corners.forall_mem_toList.1 h.inUnit
  simp only [Corners.map, round3_round3 hleft, round3_round3 htop, round3_round3 hright, round3_round3 hbottom]

/-- Rounding to three places keeps the order of all numbers.  It moves those from zero to one by hardly more than half
a thousandth, and only once.  The event of a detection in the frame is therefore in the frame, and the event of what it
says is the same event. -/
theorem rounding_keeps_order_and_settles :
    (∀ x y : Float32, x ≤ y → round3 x ≤ round3 y) ∧
      (∀ x : Float32, InUnit x →
        InUnit (round3 x) ∧ |real (round3 x) - real x| ≤ 51 / 100000 ∧ round3 (round3 x) = round3 x) ∧
      ∀ (label : String) (confidence : Float32) (corners : Corners), Framed corners →
        Framed (Event.rounded label confidence corners).corners ∧
          Event.rounded label confidence (Event.rounded label confidence corners).corners =
            Event.rounded label confidence corners ∧
          (InUnit confidence →
            Event.rounded label (Event.rounded label confidence corners).confidence
              (Event.rounded label confidence corners).corners = Event.rounded label confidence corners) := by
  refine ⟨fun x y => round3_mono, fun x hx => ?_, fun label confidence corners h => ?_⟩
  · obtain ⟨r, hr, hlow, hhigh⟩ := hasValue_zero.exists_of_between hasValue_one hx.1 hx.2
    exact ⟨inUnit_round3 hx, abs_real_round3_sub_le hr hlow hhigh, round3_round3 hx⟩
  · refine ⟨h.rounded, ?_, fun hc => ?_⟩
    · simp only [Event.rounded, h.rounded_rounded]
    · simp only [Event.rounded, h.rounded_rounded, round3_round3 hc]

example :
    Event.rounded "person" 0.87654 ⟨0.12345, 0, 0.5, 0.99999⟩ = ⟨"person", 0.877, ⟨0.123, 0, 0.5, 1⟩⟩ := by
  decide +kernel

end FrameDetect.Publish
