import FrameDetect.Proofs.Publish.Outlines

/-!
# Touched columns and rows

A rectangle with edges between zero and one touches the columns and rows from the floor of one edge to the ceiling
of the other, where edges are scaled to the canvas.  The last column and row of a canvas are never drawn on, though:
a rectangle that touches them is cut there, and one that touches nothing else has no outline at all.
-/

namespace FrameDetect.Publish

open FrameDetect.Detect (Corners)
open FrameDetect.Image (Canvas Outline)
open FrameDetect.Number

/-- The integers from one on and before another. -/
structure Span where
  first : ℤ
  stop : ℤ
deriving DecidableEq

/-- Less of it, if it does not stop before `last`. -/
def Span.cut (s : Span) (last : ℤ) : Span := ⟨s.first, min s.stop last⟩

/-- The columns or rows that lie between two edges, in part or as a whole. -/
noncomputable def touched (extent : ℕ) (low high : Float32) : Span :=
  ⟨⌊real (low * Float32.ofNat extent)⌋, ⌈real (high * Float32.ofNat extent)⌉⟩

/-- A pixel in the given columns and rows, in the first or last one of them. -/
def OnRim (across down : Span) (x y : ℕ) : Prop :=
  (across.first ≤ x ∧ x < across.stop ∧ down.first ≤ y ∧ y < down.stop) ∧
    (x = across.first ∨ x + 1 = across.stop ∨ y = down.first ∨ y + 1 = down.stop)

/-! ## Edges on a canvas -/

section

variable {extent : ℕ} {edge low high : Float32}

/-- An edge is scaled to a number from zero to the extent. -/
theorem exists_scaled_edge (h : extent < 2 ^ 32) (hzero : 0 ≤ edge) (hone : edge ≤ 1) :
    ∃ r, HasValue (edge * Float32.ofNat extent) r ∧ 0 ≤ r ∧ r ≤ nearest extent := by
  obtain ⟨t, ht, ht0, ht1⟩ := hasValue_zero.exists_of_between hasValue_one hzero hone
  have hn := hasValue_ofNat h
  have hnonneg : 0 ≤ nearest (extent : ℝ) := nearest_nonneg (Nat.cast_nonneg extent)
  have hrepresentable : Representable (nearest (extent : ℝ)) := by
    rw [← hn.real]
    exact representable_real hn.finite
  have hle : t * nearest extent ≤ nearest extent := mul_le_of_le_one_left hnonneg ht1
  have hbound : |t * nearest extent| ≤ 2 ^ 127 := by
    rw [abs_of_nonneg (mul_nonneg ht0 hnonneg)]
    have hlarge : |(extent : ℝ)| ≤ (2 : ℝ) ^ (127 : ℤ) := by exact_mod_cast abs_natCast_le h.le
    have hsmall := (representable_two_zpow (by norm_num)).abs_nearest_le hlarge
    rw [abs_of_nonneg hnonneg] at hsmall
    exact hle.trans (by exact_mod_cast hsmall)
  refine ⟨_, ht.mul hn hbound, nearest_nonneg (mul_nonneg ht0 hnonneg), ?_⟩
  calc nearest (t * nearest extent) ≤ nearest (nearest extent) := nearest_mono hle
    _ = nearest extent := hrepresentable.nearest_eq

/-- What a side of the outline is moved to is told by the columns or rows that are touched. -/
theorem moved_edges (h : IsExtent extent) (hlow : 0 ≤ low ∧ low ≤ 1)
    (hhigh : 0 ≤ high ∧ high ≤ 1) :
    0 ≤ (touched extent low high).first ∧
      max 0 (min (lastPixel extent) (floor32 (low * Float32.ofNat extent))) =
        min (lastPixel extent) (touched extent low high).first ∧
      max 0 (min (lastPixel extent) (ceil32 (high * Float32.ofNat extent))) =
        min (lastPixel extent) (touched extent low high).stop := by
  obtain ⟨r, hr, hr0, -⟩ := exists_scaled_edge h.2 hlow.1 hlow.2
  obtain ⟨s, hs, hs0, -⟩ := exists_scaled_edge h.2 hhigh.1 hhigh.2
  obtain ⟨hlast, hgreatest⟩ := lastPixel_mem h
  have hfirst : 0 ≤ ⌊r⌋ := Int.floor_nonneg.2 hr0
  have hstop : 0 ≤ ⌈s⌉ := Int.ceil_nonneg hs0
  unfold touched
  rw [hr.floor32_eq, hs.ceil32_eq, hr.real, hs.real]
  simp only [Range.clamp, signed32] at hgreatest ⊢
  omega

/-- On a canvas that is not too large, the last column or row is the last one of the canvas, and nothing beyond it
is touched. -/
theorem touched_stop_le (low : Float32) (h : extent ≤ 2 ^ 24) (hhigh : 0 ≤ high ∧ high ≤ 1) :
    lastPixel extent = extent - 1 ∧ (touched extent low high).stop ≤ extent := by
  have h32 : extent < 2 ^ 32 := by omega
  obtain ⟨s, hs, -, hs1⟩ := exists_scaled_edge h32 hhigh.1 hhigh.2
  rw [nearest_natCast h] at hs1
  unfold lastPixel touched
  rw [floor32_ofNat h, hs.real]
  exact ⟨rfl, Int.ceil_le.2 hs1⟩

/-- What is touched on a canvas that is not too large fits 32 bits. -/
theorem touched_eq (h : extent ≤ 2 ^ 24) (hlow : 0 ≤ low ∧ low ≤ 1) (hhigh : 0 ≤ high ∧ high ≤ 1) :
    touched extent low high =
      ⟨floor32 (low * Float32.ofNat extent), ceil32 (high * Float32.ofNat extent)⟩ := by
  have h32 : extent < 2 ^ 32 := by omega
  obtain ⟨r, hr, hr0, hr1⟩ := exists_scaled_edge h32 hlow.1 hlow.2
  obtain ⟨s, hs, hs0, hs1⟩ := exists_scaled_edge h32 hhigh.1 hhigh.2
  rw [nearest_natCast h] at hr1 hs1
  have hfirst : 0 ≤ ⌊r⌋ := Int.floor_nonneg.2 hr0
  have hfirst' : ⌊r⌋ ≤ extent := Int.floor_le_iff.2 (hr1.trans_lt (lt_add_one _))
  have hstop : 0 ≤ ⌈s⌉ := Int.ceil_nonneg hs0
  have hstop' : ⌈s⌉ ≤ extent := Int.ceil_le.2 hs1
  rw [touched, hr.floor32_eq, hs.ceil32_eq, hr.real, hs.real]
  simp only [Range.clamp, signed32, Span.mk.injEq]
  omega

end

/-! ## Outlines on a canvas -/

section

variable {width height : ℕ} {c : Corners} (hwidth : IsExtent width) (hheight : IsExtent height)
  (hunit : ∀ edge ∈ c.toList, 0 ≤ edge ∧ edge ≤ 1)
include hwidth hheight hunit

theorem touched_first_nonneg :
    0 ≤ (touched width c.left c.right).first ∧ 0 ≤ (touched height c.top c.bottom).first := by
  obtain ⟨hleft, htop, hright, hbottom⟩ := Corners.forall_mem_toList.1 hunit
  exact ⟨(moved_edges hwidth hleft hright).1, (moved_edges hheight htop hbottom).1⟩

theorem clamped_iff (o : Outline) :
    Clamped width height c o ↔
      (o.left = (touched width c.left c.right).first ∧
          o.right + 1 = min (touched width c.left c.right).stop (lastPixel width) ∧ o.left ≤ o.right) ∧
        o.top = (touched height c.top c.bottom).first ∧
          o.bottom + 1 = min (touched height c.top c.bottom).stop (lastPixel height) ∧ o.top ≤ o.bottom := by
  obtain ⟨hleft, htop, hright, hbottom⟩ := Corners.forall_mem_toList.1 hunit
  obtain ⟨hacross0, hleft', hright'⟩ := moved_edges hwidth hleft hright
  obtain ⟨hdown0, htop', hbottom'⟩ := moved_edges hheight htop hbottom
  constructor
  · rintro ⟨hl, ht, hr, hb, hacross, hdown⟩
    omega
  · rintro ⟨⟨hl, hr, hacross⟩, ht, hb, hdown⟩
    refine ⟨?_, ?_, ?_, ?_, hacross, hdown⟩ <;> omega

/-- A rectangle has an outline just if it touches a column and a row before the last ones. -/
theorem exists_clamped_iff :
    (∃ o, Clamped width height c o) ↔
      (touched width c.left c.right).first < min (touched width c.left c.right).stop (lastPixel width) ∧
        (touched height c.top c.bottom).first <
          min (touched height c.top c.bottom).stop (lastPixel height) := by
  obtain ⟨hacross0, hdown0⟩ := touched_first_nonneg hwidth hheight hunit
  simp only [clamped_iff hwidth hheight hunit]
  generalize touched width c.left c.right = across at *
  generalize touched height c.top c.bottom = down at *
  constructor
  · rintro ⟨o, hacross, hdown⟩
    omega
  · rintro ⟨hacross, hdown⟩
    refine ⟨⟨across.first.toNat, down.first.toNat, (min across.stop (lastPixel width) - 1).toNat,
      (min down.stop (lastPixel height) - 1).toNat⟩, ?_⟩
    simp only
    omega

/-- On a canvas that is not too large, a rectangle that touches some pixels is dropped just if these are all in the
last column or all in the last row. -/
theorem outline?_eq_none_iff (hsmall : width ≤ 2 ^ 24) (hsmall' : height ≤ 2 ^ 24)
    (hacross : (touched width c.left c.right).first < (touched width c.left c.right).stop)
    (hdown : (touched height c.top c.bottom).first < (touched height c.top c.bottom).stop) :
    outline? width height c = none ↔ (touched width c.left c.right).first + 1 = width ∨
      (touched height c.top c.bottom).first + 1 = height := by
  have hextent := exists_clamped_iff hwidth hheight hunit
  obtain ⟨-, -, hright, hbottom⟩ := Corners.forall_mem_toList.1 hunit
  obtain ⟨hlast, hstop⟩ := touched_stop_le c.left hsmall hright
  obtain ⟨hlast', hstop'⟩ := touched_stop_le c.top hsmall' hbottom
  have hnone : outline? width height c = none ↔ ¬∃ o, Clamped width height c o := by
    simp only [← outline?_eq_some_iff, ← Option.isSome_iff_exists, Option.not_isSome_iff_eq_none]
  rw [hnone, hextent, hlast, hlast']
  omega

/-- The border of the outline is the rim of what is touched before the last column and row. -/
theorem exists_border_iff (x y : ℕ) :
    (∃ o, Clamped width height c o ∧ o.Borders x y) ↔
      OnRim ((touched width c.left c.right).cut (lastPixel width))
        ((touched height c.top c.bottom).cut (lastPixel height)) x y := by
  constructor
  · rintro ⟨o, hclamped, hborder⟩
    have ho := (clamped_iff hwidth hheight hunit o).1 hclamped
    simp only [OnRim, Span.cut, Outline.Borders] at hborder ⊢
    omega
  · intro hrim
    simp only [OnRim, Span.cut] at hrim
    have hextent := exists_clamped_iff hwidth hheight hunit
    obtain ⟨o, hclamped⟩ := hextent.2 ⟨by omega, by omega⟩
    have ho := (clamped_iff hwidth hheight hunit o).1 hclamped
    refine ⟨o, hclamped, ?_⟩
    simp only [Outline.Borders]
    omega

end

/-! ## Rectangles on a picture -/

section

variable {p : Picture} {c : Corners} (hfull : p.canvas.Full)
  (hwidth : IsExtent p.canvas.width) (hheight : IsExtent p.canvas.height)
  (hunit : ∀ edge ∈ c.toList, 0 ≤ edge ∧ edge ≤ 1)
include hwidth hheight hunit

include hfull in
/-- A rectangle is drawn on the rim of what it touches before the last column and row. -/
theorem Picture.isCovered_rectangle_iff {x y : ℕ} (hx : x < p.canvas.width) (hy : y < p.canvas.height) :
    (p.rectangle c).canvas.isCovered x y = true ↔ p.canvas.isCovered x y = true ∨
      OnRim ((touched p.canvas.width c.left c.right).cut (lastPixel p.canvas.width))
        ((touched p.canvas.height c.top c.bottom).cut (lastPixel p.canvas.height)) x y := by
  rw [(Picture.adds_rectangle hfull c).isCovered_iff, and_iff_right (And.intro hx hy),
    exists_border_iff hwidth hheight hunit x y]

/-- On a clear canvas that is not too large, a rectangle that touches some pixels is drawn on their rim just if it does
not touch the last column and row. -/
theorem Picture.forall_isCovered_iff (hsmall : p.canvas.width ≤ 2 ^ 24) (hsmall' : p.canvas.height ≤ 2 ^ 24)
    (hacross : (touched p.canvas.width c.left c.right).first < (touched p.canvas.width c.left c.right).stop)
    (hdown : (touched p.canvas.height c.top c.bottom).first < (touched p.canvas.height c.top c.bottom).stop) :
    (∀ x y, x < p.canvas.width → y < p.canvas.height →
      ((p.clear.rectangle c).canvas.isCovered x y = true ↔
        OnRim (touched p.canvas.width c.left c.right) (touched p.canvas.height c.top c.bottom) x y)) ↔
      (touched p.canvas.width c.left c.right).stop < p.canvas.width ∧
        (touched p.canvas.height c.top c.bottom).stop < p.canvas.height := by
  obtain ⟨hacross0, hdown0⟩ := touched_first_nonneg hwidth hheight hunit
  have hdrawn : ∀ x y, x < p.canvas.width → y < p.canvas.height →
      ((p.clear.rectangle c).canvas.isCovered x y = true ↔
        OnRim ((touched p.canvas.width c.left c.right).cut (lastPixel p.canvas.width))
          ((touched p.canvas.height c.top c.bottom).cut (lastPixel p.canvas.height)) x y) := by
    intro x y hx hy
    have hclear : p.clear.canvas.isCovered x y = false := Canvas.isCovered_clear _ _ x y
    have hiff := Picture.isCovered_rectangle_iff (p := p.clear) (Canvas.full_clear _ _) hwidth hheight hunit hx hy
    rw [hclear, Bool.false_eq_true, false_or] at hiff
    exact hiff
  obtain ⟨-, -, hright, hbottom⟩ := Corners.forall_mem_toList.1 hunit
  obtain ⟨hlast, hstop⟩ := touched_stop_le c.left hsmall hright
  obtain ⟨hlast', hstop'⟩ := touched_stop_le c.top hsmall' hbottom
  rw [hlast, hlast'] at hdrawn
  generalize touched p.canvas.width c.left c.right = across at *
  generalize touched p.canvas.height c.top c.bottom = down at *
  constructor
  · intro h
    -- The corner of the rim that comes last is on the canvas.
    have hx : (across.stop - 1).toNat < p.canvas.width := by omega
    have hy : (down.stop - 1).toNat < p.canvas.height := by omega
    have hrim : OnRim across down (across.stop - 1).toNat (down.stop - 1).toNat := by
      simp only [OnRim]
      omega
    have hcut := (hdrawn _ _ hx hy).1 ((h _ _ hx hy).2 hrim)
    simp only [OnRim, Span.cut] at hcut
    omega
  · rintro ⟨hbefore, hbefore'⟩ x y hx hy
    have hcut : across.cut (p.canvas.width - 1) = across := by
      rw [Span.cut, min_eq_left (by omega)]
    have hcut' : down.cut (p.canvas.height - 1) = down := by
      rw [Span.cut, min_eq_left (by omega)]
    rw [hdrawn x y hx hy, hcut, hcut']

end

/-- Where a rectangle whose edges lie between zero and one is drawn, whatever has been drawn before: on the rim of
the columns and rows that it touches, without the last column and row of the canvas.  On a canvas of at most `2 ^ 24`
columns and rows, a rectangle that touches some is therefore drawn as a whole just if it does not touch the last
ones, and dropped just if it touches nothing but the last column or nothing but the last row. -/
theorem rectangle_is_drawn_before_last (path : String) (width height : UInt32) (drawings : List Drawing)
    (c : Corners) (hunit : ∀ edge ∈ c.toList, 0 ≤ edge ∧ edge ≤ 1) :
    let p := (Picture.blank path width height).drawAll drawings
    let w := p.canvas.width
    let h := p.canvas.height
    let across := touched w c.left c.right
    let down := touched h c.top c.bottom
    (∀ x y, x < w → y < h →
      ((p.rectangle c).canvas.isCovered x y = true ↔ p.canvas.isCovered x y = true ∨
        OnRim (across.cut (lastPixel w)) (down.cut (lastPixel h)) x y)) ∧
    (w ≤ 2 ^ 24 → h ≤ 2 ^ 24 → across.first < across.stop → down.first < down.stop →
      (lastPixel w = w - 1 ∧ lastPixel h = h - 1) ∧
      ((∀ x y, x < w → y < h →
        ((p.clear.rectangle c).canvas.isCovered x y = true ↔ OnRim across down x y)) ↔
          across.stop < w ∧ down.stop < h) ∧
      (outline? w h c = none ↔ across.first + 1 = w ∨ down.first + 1 = h)) := by
  intro p w h across down
  obtain ⟨hw, hh, hfull, -⟩ := (shows_blank path width height).drawAll drawings
  have hwidth : IsExtent p.canvas.width := hw.symm ▸ isExtent_max width
  have hheight : IsExtent p.canvas.height := hh.symm ▸ isExtent_max height
  refine ⟨fun x y hx hy => Picture.isCovered_rectangle_iff hfull hwidth hheight hunit hx hy, ?_⟩
  intro hw24 hh24 hacross hdown
  refine ⟨⟨?_, ?_⟩, ?_, ?_⟩
  · rw [lastPixel, floor32_ofNat hw24]
  · rw [lastPixel, floor32_ofNat hh24]
  · exact Picture.forall_isCovered_iff hwidth hheight hunit hw24 hh24 hacross hdown
  · exact outline?_eq_none_iff hwidth hheight hunit hw24 hh24 hacross hdown

/-- A rectangle away from the last column and row. -/
def interior : Corners := ⟨0.2, 0.2, 0.6, 0.6⟩

theorem rectangle_is_drawn_before_last_interior :
    (∀ edge ∈ interior.toList, 0 ≤ edge ∧ edge ≤ 1) ∧
      ∀ x y, x < 10 → y < 10 →
        ((((Picture.blank "" 10 10).drawAll []).clear.rectangle interior).canvas.isCovered x y = true ↔
          OnRim ⟨2, 6⟩ ⟨2, 6⟩ x y) := by
  have hunit : ∀ edge ∈ interior.toList, 0 ≤ edge ∧ edge ≤ 1 := by decide +kernel
  have hspan : touched 10 0.2 0.6 = ⟨2, 6⟩ := by
    rw [touched_eq (by norm_num) (by decide +kernel) (by decide +kernel)]
    decide +kernel
  have hsome : (touched 10 0.2 0.6).first < (touched 10 0.2 0.6).stop := by
    rw [hspan]
    decide
  have hbefore : (touched 10 0.2 0.6).stop < (10 : ℕ) := by
    rw [hspan]
    decide
  refine ⟨hunit, ?_⟩
  intro x y hx hy
  have h := (rectangle_is_drawn_before_last "" 10 10 [] interior hunit).2 (by decide) (by decide) hsome hsome
  have hrim := h.2.1.2 ⟨hbefore, hbefore⟩ x y hx hy
  rw [← hspan]
  exact hrim

/-- A rectangle in the lower right corner of a canvas is not drawn on the last column and row, and one that is the
whole of a canvas with a single pixel is dropped. -/
theorem last_pixels_are_lost :
    (∀ edge ∈ (⟨0.2, 0.2, 1, 1⟩ : Corners).toList, 0 ≤ edge ∧ edge ≤ 1) ∧ touched 10 0.2 1 = ⟨2, 10⟩ ∧
      (∀ k < 10, 2 ≤ k → OnRim ⟨2, 10⟩ ⟨2, 10⟩ 9 k ∧
        ((Picture.blank "" 10 10).rectangle ⟨0.2, 0.2, 1, 1⟩).canvas.isCovered 9 k = false) ∧
      (∀ edge ∈ (⟨0, 0, 1, 1⟩ : Corners).toList, 0 ≤ edge ∧ edge ≤ 1) ∧ touched 1 0 1 = ⟨0, 1⟩ ∧
      outline? 1 1 ⟨0, 0, 1, 1⟩ = none := by
  have hunit : ∀ edge ∈ (⟨0.2, 0.2, 1, 1⟩ : Corners).toList, 0 ≤ edge ∧ edge ≤ 1 := by decide +kernel
  have hspan : touched 10 0.2 1 = ⟨2, 10⟩ := by
    rw [touched_eq (by norm_num) (by decide +kernel) (by decide +kernel)]
    decide +kernel
  have hunit' : ∀ edge ∈ (⟨0, 0, 1, 1⟩ : Corners).toList, 0 ≤ edge ∧ edge ≤ 1 := by decide +kernel
  have hspan' : touched 1 0 1 = ⟨0, 1⟩ := by
    rw [touched_eq (by norm_num) (by decide +kernel) (by decide +kernel)]
    decide +kernel
  refine ⟨hunit, hspan, ?_, hunit', hspan', by decide +kernel⟩
  simp only [OnRim]
  decide +kernel

end FrameDetect.Publish
