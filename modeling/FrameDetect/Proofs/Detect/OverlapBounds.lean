import FrameDetect.Proofs.Detect.Independence
import FrameDetect.Proofs.Detect.Reference
import FrameDetect.Proofs.Number.Products

/-!
# The bounds of the overlap

The overlap of any two boxes is a number from zero to one, although their sizes may be negative or infinite or
not be numbers at all.  Shared lengths are never negative, only a covered area that is not at most zero divides,
and a quotient that is not a number counts as one.  Therefore no two rows overlap by more than one.
-/

namespace FrameDetect.Detect

open FrameDetect.Number (beq_iff_rank greater lesser not_lt_iff value value_div_nonneg value_mul_nonneg
  zero_le_iff)

/-- The greater of anything and zero is a number that is not negative. -/
theorem zero_le_greater (x : Float32) : 0 ≤ greater x 0 := by
  unfold greater
  split_ifs with hx hzero hneg
  · decide
  · cases hzero
  · decide
  · exact (not_lt_iff (Bool.eq_false_iff.2 hx) rfl).1 hneg

theorem lesser_one_mem {x : Float32} (h : 0 ≤ value x) : 0 ≤ lesser x 1 ∧ lesser x 1 ≤ 1 := by
  unfold lesser
  split_ifs with hx hone hlarge
  · decide
  · cases hone
  · decide
  · have hnum := Bool.eq_false_iff.2 hx
    exact ⟨zero_le_iff.2 ⟨hnum, h⟩, (not_lt_iff rfl hnum).1 hlarge⟩

theorem value_sharedLength_nonneg (low₁ high₁ low₂ high₂ : Float32) :
    0 ≤ value (sharedLength low₁ high₁ low₂ high₂) :=
  (zero_le_iff.1 (zero_le_greater _)).2

/-- The shared area is not negative, though it is not a number if one of the lengths is infinite and the other
one is zero. -/
theorem value_sharedArea_nonneg (a b : Box) : 0 ≤ value (sharedArea a b) :=
  value_mul_nonneg (value_sharedLength_nonneg ..) (value_sharedLength_nonneg ..)

theorem overlap_mem (a b : Box) : 0 ≤ overlap a b ∧ overlap a b ≤ 1 := by
  unfold overlap
  dsimp only
  split_ifs with h
  · decide
  · exact lesser_one_mem (value_div_nonneg (value_sharedArea_nonneg a b) h)

theorem overlap_beq_comm (a b : Box) : (overlap a b == overlap b a) = true :=
  beq_iff_rank.2 ⟨isNaN_overlap a b, isNaN_overlap b a, (overlap_comm a b).rank_eq⟩

theorem not_conflicts_one (first second : Row) : conflicts 1 first second = false := by
  rw [conflicts, decide_eq_true (overlap_mem first.box second.box).2]
  rfl

/-- The overlap of any two boxes is a number from zero to one, and the same in both orders.  With a threshold of
one, suppression therefore rejects no row. -/
theorem overlap_is_bounded_and_symmetric :
    (∀ a b : Box, (overlap a b).isNaN = false ∧ (0 ≤ overlap a b ∧ overlap a b ≤ 1) ∧
      (overlap a b == overlap b a) = true) ∧
    ∀ (rows : Array Row) (mask : Mask) (tie : TieBreak), suppress rows 1 tie mask =
      if rows.size = mask.size then .ok (0, mask) else .error .maskMismatch := by
  refine ⟨fun a b => ⟨isNaN_overlap a b, overlap_mem a b, overlap_beq_comm a b⟩, fun rows mask tie => ?_⟩
  have apart : (mask.kept 0 rows.toList).Pairwise fun x y => clashes 1 x y = false :=
    List.pairwise_of_forall fun x y => not_conflicts_one x.1 y.1
  rw [suppress, suppressFrom_of_independent tie apart]

-- two boxes without end, whose covered area is not a number
example : overlap ⟨0, 0, 1 / 0, 1⟩ ⟨0, 0, 1 / 0, 1⟩ = 1 := by decide +kernel

end FrameDetect.Detect
