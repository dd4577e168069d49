import FrameDetect.Detect.Overlap
import FrameDetect.Proofs.Number.Arithmetic

/-!
# The overlap of a box with itself

The shared area of two boxes is computed from their edges and the covered area from their sizes, so that
rounding makes the overlap of a box with itself differ from one.  It stays close to one if the box is not
tiny and not far from the origin for its size.
-/

namespace FrameDetect.Detect

open FrameDetect.Number

/-! ## Relative errors -/

/-- A number that differs from a positive one by at most a part of it. -/
def Near (part x y : ℝ) : Prop := |x - y| ≤ part * y

variable {part part' x y x' y' : ℝ}

theorem near_iff : Near part x y ↔ (1 - part) * y ≤ x ∧ x ≤ (1 + part) * y := by
  rw [Near, abs_le]
  constructor
  · rintro ⟨hlow, hhigh⟩
    constructor <;> linarith
  · rintro ⟨hlow, hhigh⟩
    constructor <;> linarith

theorem Near.mono (h : Near part x y) (hle : part ≤ part') (hy : 0 ≤ y) : Near part' x y :=
  h.trans (mul_le_mul_of_nonneg_right hle hy)

/-- What is near a number of moderate size does not overflow. -/
theorem Near.abs_le_of_le (h : Near part x y) (hpart : part ≤ 1) (hy : 0 ≤ y) (hhigh : y ≤ 2 ^ 17) :
    |x| ≤ 2 ^ 127 := by
  obtain ⟨hless, hmore⟩ := near_iff.1 h
  rw [abs_le]
  constructor <;> nlinarith

/-- Rounding adds little to a relative error. -/
theorem Near.nearest (h : Near part x y) (hpart : part ≤ 1) (hy : 1 / 2 ^ 100 ≤ y) :
    Near (part + 1 / 2 ^ 22) (nearest x) y := by
  have hpos : 0 < y := hy.trans_lt' (by positivity)
  obtain ⟨hlow, hhigh⟩ := near_iff.1 h
  have hx : |x| ≤ 2 * y := by
    rw [abs_le]
    constructor <;> nlinarith
  have hround := abs_nearest_sub_le_add x
  rw [Near]
  calc |Number.nearest x - y| ≤ |Number.nearest x - x| + |x - y| := abs_sub_le _ _ _
    _ ≤ |x| / 2 ^ 24 + 1 / 2 ^ 150 + part * y := add_le_add hround h
    _ ≤ (part + 1 / 2 ^ 22) * y := by
      norm_num at hy ⊢
      linarith

/-- The relative error of a product is little more than those of its factors together. -/
theorem Near.mul (h : Near part x y) (h' : Near part x' y') (hpart : 0 ≤ part) (hone : part ≤ 1)
    (hy : 0 < y) (hy' : 0 < y') : Near (3 * part) (x * x') (y * y') := by
  have hx' : |x'| ≤ 2 * y' := by
    obtain ⟨hlow, hhigh⟩ := near_iff.1 h'
    rw [abs_le]
    constructor <;> nlinarith
  have hsplit : x * x' - y * y' = (x - y) * x' + y * (x' - y') := by ring
  rw [Near, hsplit]
  calc |(x - y) * x' + y * (x' - y')| ≤ |x - y| * |x'| + y * |x' - y'| := by
        refine (abs_add_le _ _).trans_eq ?_
        rw [abs_mul, abs_mul, abs_of_pos hy]
    _ ≤ part * y * (2 * y') + y * (part * y') := by
        gcongr
        · exact h
        · exact h'
    _ = 3 * part * (y * y') := by ring

/-! ## The length that an interval shares with itself -/

/-- The length between the two edges of a box along one axis is nearly its size. -/
theorem hasValue_sharedLength_self {center size : Float32} {c s : ℝ} (hcenter : HasValue center c)
    (hsize : HasValue size s) (hlow : 1 / 2 ^ 20 ≤ s) (hhigh : s ≤ 2 ^ 8) (hfar : |c| ≤ 2 ^ 8 * s) :
    ∃ l, HasValue (sharedLength (center - size / 2) (center + size / 2) (center - size / 2)
      (center + size / 2)) l ∧ Near (1 / 2 ^ 14) l s := by
  have hs : 0 < s := hlow.trans_lt' (by positivity)
  have hhalf := hsize.div hasValue_two two_ne_zero (by rw [abs_of_pos (by positivity)]; linarith)
  have hhalfError := abs_nearest_sub_le_add (s / 2)
  rw [abs_of_pos (half_pos hs)] at hhalfError
  generalize nearest (s / 2) = h at hhalf hhalfError
  have hh : |h| ≤ s := by
    rw [abs_le] at hhalfError ⊢
    constructor <;> norm_num at * <;> linarith
  have hleftSize : |c - h| ≤ 257 * s := by linarith [abs_sub c h]
  have hrightSize : |c + h| ≤ 257 * s := by linarith [abs_add_le c h]
  have hleft := hcenter.sub hhalf (by linarith)
  have hright := hcenter.add hhalf (by linarith)
  have hleftError := abs_nearest_sub_le_add (c - h)
  have hrightError := abs_nearest_sub_le_add (c + h)
  generalize nearest (c - h) = left at hleft hleftError
  generalize nearest (c + h) = right at hright hrightError
  have hlength : Near (1 / 2 ^ 14 - 1 / 2 ^ 22) (right - left) s := by
    rw [Near, abs_le]
    rw [abs_le] at hleftError hrightError hhalfError
    constructor <;> norm_num at * <;> linarith
  have hnear := hlength.nearest (by norm_num) (by linarith)
  rw [sub_add_cancel] at hnear
  have hsmall : |right - left| ≤ 2 ^ 127 := by
    obtain ⟨hless, hmore⟩ := near_iff.1 hlength
    rw [abs_le]
    constructor <;> norm_num at * <;> linarith
  have hpositive : 0 ≤ nearest (right - left) := by
    linarith [(near_iff.1 hnear).1]
  have hshared := ((hright.lesser hright).sub (hleft.greater hleft)
    (by rwa [min_self, max_self])).greater hasValue_zero
  rw [min_self, max_self, max_eq_left hpositive] at hshared
  exact ⟨_, hshared, hnear⟩

/-! ## The overlap -/

/-- A box whose sizes are neither tiny nor huge, and that is not far from the origin for its size. -/
structure Moderate (b : Box) (w h : ℝ) : Prop where
  width : HasValue b.width w
  height : HasValue b.height h
  width_bounds : 1 / 2 ^ 20 ≤ w ∧ w ≤ 2 ^ 8
  height_bounds : 1 / 2 ^ 20 ≤ h ∧ h ≤ 2 ^ 8
  centerX : ∃ x, HasValue b.centerX x ∧ |x| ≤ 2 ^ 8 * w
  centerY : ∃ y, HasValue b.centerY y ∧ |y| ≤ 2 ^ 8 * h

namespace Moderate

variable {b : Box} {w h : ℝ} (m : Moderate b w h)

include m

theorem width_pos : 0 < w := m.width_bounds.1.trans_lt' (by positivity)

theorem height_pos : 0 < h := m.height_bounds.1.trans_lt' (by positivity)

theorem area_pos : 0 < w * h := mul_pos m.width_pos m.height_pos

theorem area_bounds : 1 / 2 ^ 100 ≤ w * h ∧ w * h ≤ 2 ^ 16 := by
  constructor
  · calc (1 : ℝ) / 2 ^ 100 ≤ 1 / 2 ^ 20 * (1 / 2 ^ 20) := by norm_num
      _ ≤ w * h := mul_le_mul m.width_bounds.1 m.height_bounds.1 (by positivity) m.width_pos.le
  · calc w * h ≤ 2 ^ 8 * 2 ^ 8 :=
          mul_le_mul m.width_bounds.2 m.height_bounds.2 m.height_pos.le (by positivity)
      _ = 2 ^ 16 := by norm_num

end Moderate

/-- The area that a box shares with itself is nearly its area. -/
theorem Moderate.hasValue_sharedArea {b : Box} {w h : ℝ} (m : Moderate b w h) :
    ∃ a, HasValue (sharedArea b b) a ∧ Near (1 / 2 ^ 12) a (w * h) := by
  obtain ⟨x, hx, hxfar⟩ := m.centerX
  obtain ⟨y, hy, hyfar⟩ := m.centerY
  obtain ⟨l, hl, hnear⟩ := hasValue_sharedLength_self hx m.width m.width_bounds.1 m.width_bounds.2 hxfar
  obtain ⟨l', hl', hnear'⟩ :=
    hasValue_sharedLength_self hy m.height m.height_bounds.1 m.height_bounds.2 hyfar
  have hproduct := hnear.mul hnear' (by norm_num) (by norm_num) m.width_pos m.height_pos
  have hsmall : |l * l'| ≤ 2 ^ 127 :=
    hproduct.abs_le_of_le (by norm_num) m.area_pos.le (by linarith [m.area_bounds.2])
  refine ⟨_, hl.mul hl' hsmall, ?_⟩
  exact (hproduct.nearest (by norm_num) m.area_bounds.1).mono (by norm_num) m.area_pos.le

/-- The area that a box covers together with itself is nearly its area. -/
theorem Moderate.hasValue_covered {b : Box} {w h s : ℝ} (m : Moderate b w h)
    (hs : HasValue (sharedArea b b) s) (hshared : Near (1 / 2 ^ 12) s (w * h)) :
    ∃ c, HasValue (b.area + b.area - sharedArea b b) c ∧ Near (1 / 2 ^ 11) c (w * h) := by
  have hpos := m.area_pos
  obtain ⟨hlow, hhigh⟩ := m.area_bounds
  have hexact : Near 0 (w * h) (w * h) := by rw [Near, sub_self, abs_zero, zero_mul]
  have harea : HasValue b.area (nearest (w * h)) :=
    m.width.mul m.height (hexact.abs_le_of_le (by norm_num) hpos.le (by linarith))
  have hareaNear := hexact.nearest (by norm_num) hlow
  generalize nearest (w * h) = a at harea hareaNear
  have htwice : Near (1 / 2 ^ 22) (a + a) (2 * (w * h)) := by
    rw [zero_add] at hareaNear
    rw [near_iff] at hareaNear ⊢
    constructor <;> linarith
  have hsum := harea.add harea (htwice.abs_le_of_le (by norm_num) (by linarith) (by linarith))
  have hsumNear := htwice.nearest (by norm_num) (by linarith)
  generalize nearest (a + a) = d at hsum hsumNear
  have hdifference : Near (1 / 2 ^ 11 - 1 / 2 ^ 22) (d - s) (w * h) := by
    rw [near_iff] at hsumNear hshared ⊢
    constructor <;> norm_num at * <;> linarith
  have hcoveredNear := hdifference.nearest (by norm_num) hlow
  rw [sub_add_cancel] at hcoveredNear
  exact ⟨_, hsum.sub hs (hdifference.abs_le_of_le (by norm_num) hpos.le (by linarith)), hcoveredNear⟩

/-- A moderate box overlaps itself by more than 99 %. -/
theorem Moderate.lt_overlap_self {b : Box} {w h : ℝ} (m : Moderate b w h) : 0.99 < overlap b b := by
  have hpos := m.area_pos
  obtain ⟨s, hs, hshared⟩ := m.hasValue_sharedArea
  obtain ⟨c, hcovered, hcoveredNear⟩ := m.hasValue_covered hs hshared
  rw [near_iff] at hshared hcoveredNear
  have hc : 0 < c := by linarith
  have hquotient : 255 / 256 ≤ s / c ∧ s / c ≤ 2 := by
    rw [le_div_iff₀ hc, div_le_iff₀ hc]
    constructor <;> norm_num at * <;> linarith
  have hratio := hs.div hcovered hc.ne' (by rw [abs_le]; constructor <;> linarith)
  have hnearly : 255 / 256 ≤ nearest (s / c) := by
    have hrepresentable : Representable (255 / 256) := ⟨255, -8, by norm_num, by norm_num, by norm_num⟩
    exact hrepresentable.nearest_eq.symm.trans_le (nearest_mono hquotient.1)
  have hoverlap : HasValue (overlap b b) (min (nearest (s / c)) 1) := by
    have hnot : ¬b.area + b.area - sharedArea b b ≤ 0 :=
      mt (hcovered.le_iff hasValue_zero).1 (not_le.2 hc)
    unfold overlap
    dsimp only
    rw [if_neg hnot]
    exact hratio.lesser hasValue_one
  have hbound : HasValue 0.99 (signed .positive ((16609444 : ℕ) * 2 ^ (-24 : ℤ))) :=
    hasValue_of_unpack (by norm_num) rfl
  rw [hbound.lt_iff hoverlap, lt_min_iff]
  norm_num [signed]
  linarith

end FrameDetect.Detect
