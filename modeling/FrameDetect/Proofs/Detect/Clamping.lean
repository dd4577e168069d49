import FrameDetect.Detect.Box
import FrameDetect.Proofs.Number.Products

/-!
# Edges in the frame

An edge is moved into the frame if it is a number.  It is none just if the centre and the size of the box
are both infinite, as one of the two edges is then a difference of equal infinities.
-/

namespace FrameDetect.Detect

open FrameDetect.Number

variable {x y : Float32}

/-! ## Moving a number into the frame -/

theorem clampUnit_of_isNaN (hx : x.isNaN = true) : clampUnit x = x := by
  have hlow : ¬x < 0 := fun h => Bool.false_ne_true ((lt_iff_value.1 h).1.symm.trans hx)
  have hhigh : ¬1 < x := fun h => Bool.false_ne_true ((lt_iff_value.1 h).2.1.symm.trans hx)
  simp only [clampUnit, if_neg hlow, if_neg hhigh]

theorem clampUnit_of_number (hx : x.isNaN = false) :
    (clampUnit x).isNaN = false ∧ value (clampUnit x) = min (max (value x) 0) 1 := by
  have hlow : x < 0 ↔ value x < 0 := by
    rw [lt_iff_value, value_zero]
    exact ⟨fun h => h.2.2, fun h => ⟨hx, hasValue_zero.isNaN, h⟩⟩
  have hhigh {z : Float32} (hz : z.isNaN = false) : 1 < z ↔ 1 < value z := by
    rw [lt_iff_value, value_one]
    exact ⟨fun h => h.2.2, fun h => ⟨hasValue_one.isNaN, hz, h⟩⟩
  have hraised : (if x < 0 then 0 else x).isNaN = false ∧
      value (if x < 0 then 0 else x) = max (value x) 0 := by
    split_ifs with h
    · exact ⟨hasValue_zero.isNaN, value_zero.trans (max_eq_right (hlow.1 h).le).symm⟩
    · exact ⟨hx, (max_eq_left (not_lt.1 (mt hlow.2 h))).symm⟩
  unfold clampUnit
  dsimp only
  rw [← hraised.2]
  generalize (if x < 0 then 0 else x) = raised at hraised ⊢
  split_ifs with h
  · exact ⟨hasValue_one.isNaN, value_one.trans (min_eq_right ((hhigh hraised.1).1 h).le).symm⟩
  · exact ⟨hraised.1, (min_eq_left (not_lt.1 (mt (hhigh hraised.1).2 h))).symm⟩

theorem isNaN_clampUnit : (clampUnit x).isNaN = x.isNaN := by
  cases hx : x.isNaN with
  | true => rw [clampUnit_of_isNaN hx, hx]
  | false => exact (clampUnit_of_number hx).1

theorem clampUnit_mem (hx : x.isNaN = false) : 0 ≤ clampUnit x ∧ clampUnit x ≤ 1 := by
  obtain ⟨hnum, hvalue⟩ := clampUnit_of_number hx
  rw [le_iff_value, le_iff_value, hvalue, value_zero, value_one]
  exact ⟨⟨hasValue_zero.isNaN, hnum, le_min (le_max_right _ _) zero_le_one⟩,
    hnum, hasValue_one.isNaN, min_le_right _ _⟩

theorem clampUnit_mono (hx : x.isNaN = false) (hy : y.isNaN = false) (h : value x ≤ value y) :
    clampUnit x ≤ clampUnit y := by
  obtain ⟨hnumx, hvaluex⟩ := clampUnit_of_number hx
  obtain ⟨hnumy, hvaluey⟩ := clampUnit_of_number hy
  rw [le_iff_value, hvaluex, hvaluey]
  exact ⟨hnumx, hnumy, min_le_min_right 1 (max_le_max_right 0 h)⟩

/-! ## Edges of a box -/

/-- The lower and the upper edge of a box along one axis.  If the centre and the size are both infinite, then
one of the edges is not a number: the lower one if they are equal, else the upper one.  All other edges lie
in the frame, and those of a box whose size is not negative are in order. -/
structure Spans (center size low high : Float32) : Prop where
  low_isNaN_iff : low.isNaN = true ↔ center.isInf = true ∧ size.isInf = true ∧ (center == size) = true
  high_isNaN_iff : high.isNaN = true ↔ center.isInf = true ∧ size.isInf = true ∧ (center == size) = false
  low_mem : low.isNaN = false → 0 ≤ low ∧ low ≤ 1
  high_mem : high.isNaN = false → 0 ≤ high ∧ high ≤ 1
  ordered : low.isNaN = false → high.isNaN = false → 0 ≤ size → low ≤ high

section

variable {center size : Float32} (hcenter : center.isNaN = false) (hsize : size.isNaN = false)

include hcenter hsize

/-- Half of the size is opposed to the centre just if the size is. -/
theorem opposed_half_iff : Opposed (value center) (value (size / 2)) ↔
    center.isInf = true ∧ size.isInf = true ∧ (center == size) = false := by
  rw [← opposed_iff hcenter hsize, Opposed, Opposed, value_half_iff hsize (.inl rfl),
    value_half_iff hsize (.inr rfl)]

theorem opposed_neg_half_iff : Opposed (value center) (-value (size / 2)) ↔
    center.isInf = true ∧ size.isInf = true ∧ (center == size) = true := by
  rw [Opposed, EReal.neg_eq_bot_iff, EReal.neg_eq_top_iff, value_half_iff hsize (.inl rfl),
    value_half_iff hsize (.inr rfl), isInf_iff_value hcenter, isInf_iff_value hsize,
    beq_iff_of_numbers hcenter hsize]
  constructor
  · rintro (⟨hc, hs⟩ | ⟨hc, hs⟩) <;> simp [hc, hs]
  · rintro ⟨hc | hc, hs | hs, heq⟩ <;> simp [hc, hs] at heq ⊢

theorem spans_clampUnit :
    Spans center size (clampUnit (center - size / 2)) (clampUnit (center + size / 2)) := by
  have hlow := roundsSum_sub hcenter (isNaN_half hsize)
  have hhigh := roundsSum_add hcenter (isNaN_half hsize)
  constructor
  case low_isNaN_iff => rw [isNaN_clampUnit, hlow.isNaN_iff, opposed_neg_half_iff hcenter hsize]
  case high_isNaN_iff => rw [isNaN_clampUnit, hhigh.isNaN_iff, opposed_half_iff hcenter hsize]
  case low_mem => exact fun h => clampUnit_mem (isNaN_clampUnit.symm.trans h)
  case high_mem => exact fun h => clampUnit_mem (isNaN_clampUnit.symm.trans h)
  case ordered =>
    rw [isNaN_clampUnit, isNaN_clampUnit]
    intro hnumlow hnumhigh hnonneg
    have hhalf : 0 ≤ value (size / 2) := value_div_nonneg (zero_le_iff.1 hnonneg).2 (by decide)
    have hturned : -value (size / 2) ≤ value (size / 2) := by
      refine le_trans ?_ hhalf
      rwa [EReal.neg_le, neg_zero]
    refine clampUnit_mono hnumlow hnumhigh ?_
    rw [hlow.value_eq hnumlow, hhigh.value_eq hnumhigh]
    exact roundedValue_mono (add_le_add_right hturned _)

end

/-- Both edges lie in the frame, unless the centre and the size are infinite. -/
theorem Spans.mem_iff {center size low high : Float32} (h : Spans center size low high) :
    ((0 ≤ low ∧ low ≤ 1) ∧ 0 ≤ high ∧ high ≤ 1) ↔ ¬(center.isInf = true ∧ size.isInf = true) := by
  constructor
  · rintro ⟨⟨hlow, -⟩, hhigh, -⟩ ⟨hcenter, hsize⟩
    have hnumlow := (not_isNaN_of_le hlow).2
    have hnumhigh := (not_isNaN_of_le hhigh).2
    cases hequal : center == size with
    | true => exact Bool.eq_false_iff.1 hnumlow (h.low_isNaN_iff.2 ⟨hcenter, hsize, hequal⟩)
    | false => exact Bool.eq_false_iff.1 hnumhigh (h.high_isNaN_iff.2 ⟨hcenter, hsize, hequal⟩)
  · intro hbounded
    refine ⟨h.low_mem (Bool.eq_false_iff.2 fun hnan => ?_), h.high_mem (Bool.eq_false_iff.2 fun hnan => ?_)⟩
    · obtain ⟨hcenter, hsize, -⟩ := h.low_isNaN_iff.1 hnan
      exact hbounded ⟨hcenter, hsize⟩
    · obtain ⟨hcenter, hsize, -⟩ := h.high_isNaN_iff.1 hnan
      exact hbounded ⟨hcenter, hsize⟩

/-- Corners that are the edges of a box along both axes. -/
structure Corners.Frame (c : Corners) (b : Box) : Prop where
  horizontal : Spans b.centerX b.width c.left c.right
  vertical : Spans b.centerY b.height c.top c.bottom

/-- A box whose centre and size are not both infinite, along either axis. -/
structure Box.Bounded (b : Box) : Prop where
  horizontal : ¬(b.centerX.isInf = true ∧ b.width.isInf = true)
  vertical : ¬(b.centerY.isInf = true ∧ b.height.isInf = true)

theorem Corners.Frame.forall_mem_iff {c : Corners} {b : Box} (h : c.Frame b) :
    (∀ edge ∈ c.toList, 0 ≤ edge ∧ edge ≤ 1) ↔ b.Bounded := by
  rw [Corners.forall_mem_toList]
  constructor
  · rintro ⟨hleft, htop, hright, hbottom⟩
    exact ⟨h.horizontal.mem_iff.1 ⟨hleft, hright⟩, h.vertical.mem_iff.1 ⟨htop, hbottom⟩⟩
  · rintro ⟨hhorizontal, hvertical⟩
    obtain ⟨hleft, hright⟩ := h.horizontal.mem_iff.2 hhorizontal
    obtain ⟨htop, hbottom⟩ := h.vertical.mem_iff.2 hvertical
    exact ⟨hleft, htop, hright, hbottom⟩

end FrameDetect.Detect
