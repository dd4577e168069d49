import FrameDetect.Proofs.Detect.OverlapBounds
import FrameDetect.Proofs.Number.Indeterminate
import FrameDetect.Proofs.Number.Magnitude
import FrameDetect.Proofs.Tensor.Decoding

/-!
# Boxes apart

Boxes that lie side by side share nothing, and neither does a box without extent.  Their overlap is zero as long as
the area that they cover is a number.  It is none where an infinity meets a zero or an opposite infinity on the way;
such boxes overlap as a whole.
-/

namespace FrameDetect.Detect

open FrameDetect.Number

/-! ## Along one axis -/

section

variable {low₁ high₁ low₂ high₂ : Float32}

theorem isNaN_sharedLength : (sharedLength low₁ high₁ low₂ high₂).isNaN = false :=
  (zero_le_iff.1 (zero_le_greater _)).1

/-- Intervals share nothing if one ends before the other begins, or before it begins itself. -/
theorem sharedLength_beq_zero (hlow₁ : low₁.isNaN = false) (hhigh₁ : high₁.isNaN = false)
    (hlow₂ : low₂.isNaN = false) (hhigh₂ : high₂.isNaN = false)
    (h : min (value high₁) (value high₂) ≤ max (value low₁) (value low₂)) :
    (sharedLength low₁ high₁ low₂ high₂ == 0) = true := by
  obtain ⟨hend, hend'⟩ := value_lesser hhigh₁ hhigh₂
  obtain ⟨hbegin, hbegin'⟩ := value_greater hlow₁ hlow₂
  rw [← hend', ← hbegin'] at h
  have hdifference := roundsSum_sub hend hbegin
  unfold sharedLength
  cases hnum : (lesser high₁ high₂ - greater low₁ low₂).isNaN with
  | true =>
    -- equal infinities have no difference, and zero is greater than what is no number
    rw [greater, if_pos hnum]
    decide
  | false =>
    obtain ⟨hgreater, hvalue⟩ := value_greater hnum hasValue_zero.isNaN
    have hnonpos : value (lesser high₁ high₂ - greater low₁ low₂) ≤ 0 := by
      rw [hdifference.value_eq hnum, ← sub_eq_add_neg, ← roundedValue_zero]
      exact roundedValue_mono (EReal.sub_nonpos.2 h)
    rw [value_zero, max_eq_right hnonpos] at hvalue
    exact beq_iff_value.2 ⟨hgreater, hasValue_zero.isNaN, hvalue.trans value_zero.symm⟩

end

/-- The edges of a box without extent are not in order. -/
theorem high_le_low {center size : Float32} (hlow : (center - size / 2).isNaN = false)
    (hhigh : (center + size / 2).isNaN = false) (h : size ≤ 0) :
    value (center + size / 2) ≤ value (center - size / 2) := by
  obtain ⟨hsize, -, hvalue⟩ := le_iff_value.1 h
  rw [value_zero] at hvalue
  have hcenter : center.isNaN = false := by
    by_contra hnan
    have hedge : (center - size / 2).isNaN = true := isNaN_sub_of_left (Bool.of_not_eq_false hnan)
    exact Bool.false_ne_true (hlow.symm.trans hedge)
  have hhalf : value (size / 2) ≤ 0 := by
    rw [value_div _ (by decide), ← roundedValue_zero]
    exact roundedValue_mono (EReal.div_nonpos_of_nonpos_of_nonneg hvalue (zero_le_iff.1 (by decide)).2)
  rw [(roundsSum_add hcenter (isNaN_half hsize)).value_eq hhigh,
    (roundsSum_sub hcenter (isNaN_half hsize)).value_eq hlow]
  apply roundedValue_mono
  apply add_le_add_right
  exact hhalf.trans (EReal.neg_nonneg.2 hhalf)

/-- Boxes share no length along an axis if they lie side by side or if one of them has no extent. -/
theorem sharedLength_beq_zero_of_apart {c s c' s' : Float32} (hlow : (c - s / 2).isNaN = false)
    (hhigh : (c + s / 2).isNaN = false) (hlow' : (c' - s' / 2).isNaN = false)
    (hhigh' : (c' + s' / 2).isNaN = false)
    (h : c + s / 2 ≤ c' - s' / 2 ∨ c' + s' / 2 ≤ c - s / 2 ∨ s ≤ 0 ∨ s' ≤ 0) :
    (sharedLength (c - s / 2) (c + s / 2) (c' - s' / 2) (c' + s' / 2) == 0) = true := by
  apply sharedLength_beq_zero hlow hhigh hlow' hhigh'
  rcases h with hbefore | hafter | hflat | hflat
  · exact min_le_of_left_le (le_max_of_le_right (le_iff_value.1 hbefore).2.2)
  · exact min_le_of_right_le (le_max_of_le_left (le_iff_value.1 hafter).2.2)
  · exact min_le_of_left_le (le_max_of_le_left (high_le_low hlow hhigh hflat))
  · exact min_le_of_right_le (le_max_of_le_right (high_le_low hlow' hhigh' hflat))

/-! ## Two boxes -/

/-- Boxes side by side along one of the axes, or one of them without extent along it. -/
def Apart (a b : Box) : Prop :=
  let p := a.rawCorners
  let q := b.rawCorners
  (p.right ≤ q.left ∨ q.right ≤ p.left ∨ a.width ≤ 0 ∨ b.width ≤ 0) ∨
    p.bottom ≤ q.top ∨ q.bottom ≤ p.top ∨ a.height ≤ 0 ∨ b.height ≤ 0

/-- A box all of whose edges are numbers. -/
def Box.Edged (b : Box) : Prop := ∀ edge ∈ b.rawCorners.toList, edge.isNaN = false

def sharedWidth (a b : Box) : Float32 :=
  sharedLength a.rawCorners.left a.rawCorners.right b.rawCorners.left b.rawCorners.right

def sharedHeight (a b : Box) : Float32 :=
  sharedLength a.rawCorners.top a.rawCorners.bottom b.rawCorners.top b.rawCorners.bottom

/-- The area that two boxes cover together. -/
def coveredArea (a b : Box) : Float32 := a.area + b.area - sharedArea a b

theorem sharedArea_eq (a b : Box) : sharedArea a b = sharedWidth a b * sharedHeight a b := rfl

theorem overlap_eq (a b : Box) : overlap a b =
    if coveredArea a b ≤ 0 then 0 else lesser (sharedArea a b / coveredArea a b) 1 := rfl

section

variable {a b : Box}

theorem Apart.shared_beq_zero (h : Apart a b) (ha : a.Edged) (hb : b.Edged) :
    (sharedWidth a b == 0) = true ∨ (sharedHeight a b == 0) = true := by
  obtain ⟨hleft, htop, hright, hbottom⟩ := Corners.forall_mem_toList.1 ha
  obtain ⟨hleft', htop', hright', hbottom'⟩ := Corners.forall_mem_toList.1 hb
  rcases h with hacross | hdown
  · exact .inl (sharedLength_beq_zero_of_apart hleft hright hleft' hright' hacross)
  · exact .inr (sharedLength_beq_zero_of_apart htop hbottom htop' hbottom' hdown)

/-- The area shared by boxes apart is zero, unless it is no number. -/
theorem sharedArea_beq_zero (h : (sharedWidth a b == 0) = true ∨ (sharedHeight a b == 0) = true)
    (hnum : (sharedArea a b).isNaN = false) : (sharedArea a b == 0) = true := by
  have hvalue : value (sharedArea a b) = 0 := by
    rw [sharedArea_eq, value_mul]
    rcases h with h | h
    · rw [(beq_iff_value.1 h).2.2, value_zero, zero_mul, roundedValue_zero]
    · rw [(beq_iff_value.1 h).2.2, value_zero, mul_zero, roundedValue_zero]
  exact beq_iff_value.2 ⟨hnum, hasValue_zero.isNaN, hvalue.trans value_zero.symm⟩

/-- Boxes that share nothing overlap by zero if they cover an area that is a number. -/
theorem overlap_beq_zero (h : (sharedWidth a b == 0) = true ∨ (sharedHeight a b == 0) = true)
    (hnum : (coveredArea a b).isNaN = false) : (overlap a b == 0) = true := by
  have hshared : (sharedArea a b).isNaN = false := by
    by_contra hnan
    have hcovered : (coveredArea a b).isNaN = true := isNaN_sub_of_right (Bool.of_not_eq_false hnan)
    exact Bool.false_ne_true (hnum.symm.trans hcovered)
  rw [overlap_eq]
  by_cases hle : coveredArea a b ≤ 0
  · rw [if_pos hle]
    decide
  · rw [if_neg hle]
    have hquotient := zero_div_beq (sharedArea_beq_zero h hshared) hnum hle
    obtain ⟨hq, -, hvalue⟩ := beq_iff_value.1 hquotient
    obtain ⟨hlesser, hlesser'⟩ := value_lesser hq hasValue_one.isNaN
    refine beq_iff_value.2 ⟨hlesser, hasValue_zero.isNaN, ?_⟩
    rw [hlesser', hvalue, value_zero, value_one, min_eq_left zero_le_one]

/-- An area that is no number makes boxes overlap as a whole. -/
theorem overlap_eq_one (hnan : (coveredArea a b).isNaN = true) : overlap a b = 1 := by
  have hle : ¬coveredArea a b ≤ 0 := by
    intro hle
    exact Bool.false_ne_true ((le_iff_value.1 hle).1.symm.trans hnan)
  rw [overlap_eq, if_neg hle, lesser, if_pos (isNaN_div_of_right hnan)]

end

/-! ## Areas that are no numbers -/

/-- A box without end along one axis and without extent along the other one, so that its area is no number. -/
def Box.Hairline (b : Box) : Prop :=
  b.width.isInf = true ∧ (b.height == 0) = true ∨ (b.width == 0) = true ∧ b.height.isInf = true

/-- Boxes apart that do not cover an area: one of them is a hairline, or their areas are opposite infinities, or they
share an infinite length along one of the axes. -/
def Unmeasured (a b : Box) : Prop :=
  a.Hairline ∨ b.Hairline ∨
    (a.area.isInf = true ∧ b.area.isInf = true ∧ (a.area == b.area) = false) ∨
    (sharedWidth a b).isInf = true ∨ (sharedHeight a b).isInf = true

theorem Box.isNaN_area_iff {b : Box} (hwidth : b.width.isNaN = false) (hheight : b.height.isNaN = false) :
    b.area.isNaN = true ↔ b.Hairline := by
  unfold area
  rw [isNaN_mul_iff, hwidth, hheight]
  simp only [Bool.false_eq_true, false_or]
  rfl

section

variable {a b : Box}

theorem isNaN_sharedArea_iff (h : (sharedWidth a b == 0) = true ∨ (sharedHeight a b == 0) = true) :
    (sharedArea a b).isNaN = true ↔ (sharedWidth a b).isInf = true ∨ (sharedHeight a b).isInf = true := by
  have hwidth : (sharedWidth a b).isNaN = false := isNaN_sharedLength
  have hheight : (sharedHeight a b).isNaN = false := isNaN_sharedLength
  rw [sharedArea_eq, isNaN_mul_iff, hwidth, hheight]
  simp only [Bool.false_eq_true, false_or]
  constructor
  · rintro (⟨hinf, -⟩ | ⟨-, hinf⟩)
    · exact .inl hinf
    · exact .inr hinf
  · rintro (hinf | hinf)
    · have hne : ¬(sharedWidth a b == 0) = true := by
        intro hzero
        exact Bool.false_ne_true ((isInf_of_beq_zero hzero).symm.trans hinf)
      exact .inl ⟨hinf, h.resolve_left hne⟩
    · have hne : ¬(sharedHeight a b == 0) = true := by
        intro hzero
        exact Bool.false_ne_true ((isInf_of_beq_zero hzero).symm.trans hinf)
      exact .inr ⟨h.resolve_right hne, hinf⟩

theorem isNaN_coveredArea_iff (h : (sharedWidth a b == 0) = true ∨ (sharedHeight a b == 0) = true)
    (hwidth : a.width.isNaN = false) (hheight : a.height.isNaN = false) (hwidth' : b.width.isNaN = false)
    (hheight' : b.height.isNaN = false) : (coveredArea a b).isNaN = true ↔ Unmeasured a b := by
  unfold Unmeasured
  rw [← Box.isNaN_area_iff hwidth hheight, ← Box.isNaN_area_iff hwidth' hheight', ← isNaN_sharedArea_iff h]
  cases hshared : (sharedArea a b).isNaN with
  | true =>
    have hcovered : (coveredArea a b).isNaN = true := isNaN_sub_of_right hshared
    simp only [hcovered, or_true]
  | false =>
    -- the shared area is a zero, whose difference from the sum is a number if the sum is
    have hcovered : (coveredArea a b).isNaN = true ↔ (a.area + b.area).isNaN = true := by
      constructor
      · intro hnan
        by_contra hsum
        rw [coveredArea, isNaN_sub_zero (Bool.not_eq_true _ ▸ hsum) (sharedArea_beq_zero h hshared)] at hnan
        cases hnan
      · exact isNaN_sub_of_left
    rw [hcovered, isNaN_add_iff]
    simp only [Bool.false_eq_true, or_false]

/-- Boxes whose centres and sizes are not too large cover an area. -/
theorem not_unmeasured (ha : ∀ x ∈ [a.centerX, a.centerY, a.width, a.height], Within 63 x)
    (hb : ∀ x ∈ [b.centerX, b.centerY, b.width, b.height], Within 63 x) : ¬Unmeasured a b := by
  simp only [List.forall_mem_cons] at ha hb
  obtain ⟨hx, hy, hw, hh, -⟩ := ha
  obtain ⟨hx', hy', hw', hh', -⟩ := hb
  have hlength : ∀ {c s c' s' : Float32}, Within 63 c → Within 63 s → Within 63 c' → Within 63 s' →
      (sharedLength (c - s / 2) (c + s / 2) (c' - s' / 2) (c' + s' / 2)).isInf = false := by
    intro c s c' s' hc hs hc' hs'
    have hlow := hc.sub (hs.half (by omega)) (by omega)
    have hhigh := hc.add (hs.half (by omega)) (by omega)
    have hlow' := hc'.sub (hs'.half (by omega)) (by omega)
    have hhigh' := hc'.add (hs'.half (by omega)) (by omega)
    exact (((hhigh.lesser hhigh').sub (hlow.greater hlow') (by omega)).greater .zero).isInf
  have hhairline : ∀ {b : Box}, Within 63 b.width → Within 63 b.height → ¬b.Hairline := by
    rintro b hw hh (⟨hinf, -⟩ | ⟨-, hinf⟩)
    · exact Bool.false_ne_true (hw.isInf.symm.trans hinf)
    · exact Bool.false_ne_true (hh.isInf.symm.trans hinf)
  rintro (hhair | hhair | ⟨harea, -⟩ | hshared | hshared)
  · exact hhairline hw hh hhair
  · exact hhairline hw' hh' hhair
  · exact Bool.false_ne_true ((hw.mul hh (by omega)).isInf.symm.trans harea)
  · exact Bool.false_ne_true ((hlength hx hw hx' hw').symm.trans hshared)
  · exact Bool.false_ne_true ((hlength hy hh hy' hh').symm.trans hshared)

end

/-! ## Suppression -/

section

variable {threshold : Float32} {first second : Row}

theorem not_conflicts_of_beq_zero (h : (overlap first.box second.box == 0) = true) (hthreshold : 0 ≤ threshold) :
    conflicts threshold first second = false := by
  obtain ⟨hnum, -, hvalue⟩ := beq_iff_value.1 h
  have hle : overlap first.box second.box ≤ threshold :=
    le_trans_le (le_iff_value.2 ⟨hnum, hasValue_zero.isNaN, hvalue.le⟩) hthreshold
  rw [conflicts, decide_eq_true hle]
  rfl

theorem conflicts_of_eq_one (h : overlap first.box second.box = 1) (hthreshold : threshold < 1) :
    conflicts threshold first second = true := by
  have hlt : ¬overlap first.box second.box ≤ threshold := by
    rw [h]
    intro hle
    exact not_lt_of_lt (lt_trans_le hthreshold hle) (lt_trans_le hthreshold hle)
  rw [conflicts, decide_eq_false hlt]
  rfl

end

end FrameDetect.Detect
