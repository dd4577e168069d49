import FrameDetect.Publish.Picture
import FrameDetect.Proofs.Image.Canvas
import FrameDetect.Proofs.Number.Whole

/-!
# Drawing rectangles

The edges of a rectangle are moved onto the canvas, and a rectangle that has columns and rows then is drawn.
None of the integers on the way leaves the 32 bits that hold it, and no rectangle without extent is built, whatever
the edges are.
-/

namespace FrameDetect.Publish

open FrameDetect.Detect (Corners)
open FrameDetect.Image (Canvas Outline)
open FrameDetect.Number (ceil32 floor32 floor32_ofNat_le one_le_floor32_ofNat signed32)

/-- A number of columns or rows that a canvas can have. -/
def IsExtent (n : Nat) : Prop := 0 < n ∧ n < 2 ^ 32

/-- The last column or row that outlines are moved to, on a canvas of the given extent. -/
def lastPixel (extent : Nat) : Int := floor32 (Float32.ofNat extent) - 1

theorem floor32_sub_one (extent : Nat) : floor32 (Float32.ofNat extent) - 1 = lastPixel extent := rfl

/-- The outline of a rectangle that is moved onto a canvas: from the column and row that its left and upper edge
lie in to the one before its right and lower edge. -/
structure Clamped (width height : Nat) (c : Corners) (o : Outline) : Prop where
  left_eq : (o.left : Int) = max 0 (min (lastPixel width) (floor32 (c.left * Float32.ofNat width)))
  top_eq : (o.top : Int) = max 0 (min (lastPixel height) (floor32 (c.top * Float32.ofNat height)))
  right_eq : (o.right : Int) + 1 =
    max 0 (min (lastPixel width) (ceil32 (c.right * Float32.ofNat width)))
  bottom_eq : (o.bottom : Int) + 1 =
    max 0 (min (lastPixel height) (ceil32 (c.bottom * Float32.ofNat height)))
  left_le_right : o.left ≤ o.right
  top_le_bottom : o.top ≤ o.bottom

theorem clampPixel_eq (last n : Int) : (clampPixel last n : Int) = max 0 (min last n) :=
  Int.toNat_of_nonneg (le_max_left _ _)

theorem clampPixel_le {last : Int} (h : 0 ≤ last) (n : Int) : (clampPixel last n : Int) ≤ last := by
  rw [clampPixel_eq]
  exact max_le h (min_le_left _ _)

/-- A rectangle is drawn just if it has an outline on the canvas. -/
theorem outline?_eq_some_iff {width height : Nat} {c : Corners} {o : Outline} :
    outline? width height c = some o ↔ Clamped width height c o := by
  constructor
  · intro h
    simp only [outline?, Option.ite_none_right_eq_some, Option.some.injEq] at h
    obtain ⟨⟨hacross, hdown⟩, rfl⟩ := h
    refine ⟨clampPixel_eq _ _, clampPixel_eq _ _, ?_, ?_, Nat.le_sub_one_of_lt hacross,
      Nat.le_sub_one_of_lt hdown⟩
    · rw [← clampPixel_eq]
      exact_mod_cast Nat.sub_add_cancel (Nat.one_le_of_lt hacross)
    · rw [← clampPixel_eq]
      exact_mod_cast Nat.sub_add_cancel (Nat.one_le_of_lt hdown)
  · rintro ⟨hleft, htop, hright, hbottom, hacross, hdown⟩
    rw [← clampPixel_eq] at hleft htop hright hbottom
    have hright' : o.right + 1 = clampPixel (lastPixel width) (ceil32 (c.right * Float32.ofNat width)) :=
      Int.ofNat_inj.1 hright
    have hbottom' : o.bottom + 1 = clampPixel (lastPixel height) (ceil32 (c.bottom * Float32.ofNat height)) :=
      Int.ofNat_inj.1 hbottom
    simp only [outline?, floor32_sub_one, ← Int.ofNat_inj.1 hleft, ← Int.ofNat_inj.1 htop, ← hright',
      ← hbottom', Nat.add_sub_cancel, if_pos (And.intro (Nat.lt_succ_of_le hacross) (Nat.lt_succ_of_le hdown))]

/-- Drawing a rectangle covers the border of its outline. -/
theorem Picture.adds_rectangle {p : Picture} (h : p.canvas.Full) (c : Corners) :
    p.canvas.Adds (fun x y => ∃ o, Clamped p.canvas.width p.canvas.height c o ∧ o.Borders x y)
      (p.rectangle c).canvas := by
  unfold rectangle
  cases houtline : outline? p.canvas.width p.canvas.height c with
  | none =>
    apply h.adds_nothing
    rintro x y - - ⟨o, ho, -⟩
    rw [outline?_eq_some_iff.2 ho] at houtline
    cases houtline
  | some outline =>
    have hclamped := outline?_eq_some_iff.1 houtline
    apply (h.adds_draw hclamped.left_le_right hclamped.top_le_bottom).congr
    intro x y
    constructor
    · intro hborder
      exact ⟨outline, hclamped, hborder⟩
    · rintro ⟨o, ho, hborder⟩
      rw [outline?_eq_some_iff.2 ho] at houtline
      cases houtline
      exact hborder

/-! ## Drawing step by step -/

/-- What would stop a drawing before it is done. -/
inductive DrawingFault where
  /-- An integer needs more than 32 bits. -/
  | overflow
  /-- A range of integers ends before it begins. -/
  | crossedRange
  /-- A rectangle has no columns or no rows. -/
  | noExtent
deriving Repr, DecidableEq

/-- An integer that is held in 32 bits. -/
def held (n : Int) : Except DrawingFault Int :=
  if signed32.least ≤ n ∧ n ≤ signed32.greatest then .ok n else .error .overflow

/-- An integer moved into a range. -/
def movedInto (least greatest n : Int) : Except DrawingFault Int :=
  if least ≤ greatest then .ok (max least (min greatest n)) else .error .crossedRange

/-- The rectangle with a corner and a number of columns and rows. -/
def sized (left top columns rows : Int) : Except DrawingFault Outline := do
  if columns ≤ 0 ∨ rows ≤ 0 then throw .noExtent
  let right ← held (left + columns - 1)
  let bottom ← held (top + rows - 1)
  return ⟨left.toNat, top.toNat, right.toNat, bottom.toNat⟩

/-- The outline from a column and a row to those before others, if there are any. -/
def spanned (left top right bottom : Int) : Except DrawingFault (Option Outline) := do
  if left ≥ right ∨ top ≥ bottom then return none
  let columns ← held (right - left)
  let rows ← held (bottom - top)
  return some (← sized left top columns rows)

/-- The outline of a rectangle, with each step that can fail. -/
def outlineStepwise (width height : Nat) (c : Corners) : Except DrawingFault (Option Outline) := do
  let w := Float32.ofNat width
  let h := Float32.ofNat height
  let left ← movedInto 0 (← held (floor32 w - 1)) (floor32 (c.left * w))
  let top ← movedInto 0 (← held (floor32 h - 1)) (floor32 (c.top * h))
  let right ← movedInto 0 (← held (floor32 w - 1)) (ceil32 (c.right * w))
  let bottom ← movedInto 0 (← held (floor32 h - 1)) (ceil32 (c.bottom * h))
  spanned left top right bottom

/-- A rectangle is drawn with each step that can fail. -/
def Picture.rectangleStepwise (p : Picture) (c : Corners) : Except DrawingFault Picture := do
  match ← outlineStepwise p.canvas.width p.canvas.height c with
  | some outline => return { p with canvas := p.canvas.draw outline }
  | none => return p

theorem held_eq_pure {n : Int} (hleast : signed32.least ≤ n) (hgreatest : n ≤ signed32.greatest) :
    held n = pure n :=
  if_pos ⟨hleast, hgreatest⟩

theorem movedInto_eq_pure {last : Int} (h : 0 ≤ last) (n : Int) :
    movedInto 0 last n = pure (clampPixel last n : Int) := by
  rw [clampPixel_eq]
  exact if_pos h

/-- The last column of a canvas is not before the first one, and its number fits 32 bits. -/
theorem lastPixel_mem {extent : Nat} (h : IsExtent extent) :
    0 ≤ lastPixel extent ∧ lastPixel extent ≤ signed32.greatest := by
  have hfirst := one_le_floor32_ofNat h.1 h.2
  have hlast := floor32_ofNat_le h.2
  unfold lastPixel
  omega

/-- A rectangle on the canvas has a last column and row that fit 32 bits. -/
theorem sized_eq_pure {left top right bottom : Nat} (hacross : left < right) (hdown : top < bottom)
    (hright : (right : Int) ≤ signed32.greatest) (hbottom : (bottom : Int) ≤ signed32.greatest) :
    sized left top (right - left) (bottom - top) = pure ⟨left, top, right - 1, bottom - 1⟩ := by
  have hleast : signed32.least ≤ 0 := by decide
  have hextent : ¬((right : Int) - left ≤ 0 ∨ (bottom : Int) - top ≤ 0) := by omega
  have hright' : held (left + (right - left) - 1) = pure ((right - 1 : Nat) : Int) := by
    rw [held_eq_pure (by omega) (by omega)]
    congr 1
    omega
  have hbottom' : held (top + (bottom - top) - 1) = pure ((bottom - 1 : Nat) : Int) := by
    rw [held_eq_pure (by omega) (by omega)]
    congr 1
    omega
  simp only [sized, if_neg hextent, hright', hbottom', pure_bind, Int.toNat_natCast]

theorem spanned_eq_pure {left top right bottom : Nat} (hright : (right : Int) ≤ signed32.greatest)
    (hbottom : (bottom : Int) ≤ signed32.greatest) :
    spanned left top right bottom =
      pure (if left < right ∧ top < bottom then some ⟨left, top, right - 1, bottom - 1⟩ else none) := by
  have hleast : signed32.least ≤ 0 := by decide
  by_cases h : left < right ∧ top < bottom
  · have hextent : ¬((left : Int) ≥ right ∨ (top : Int) ≥ bottom) := by omega
    rw [spanned, if_neg hextent, if_pos h, held_eq_pure (by omega) (by omega),
      held_eq_pure (by omega) (by omega), pure_bind, pure_bind, sized_eq_pure h.1 h.2 hright hbottom,
      pure_bind]
  · have hextent : (left : Int) ≥ right ∨ (top : Int) ≥ bottom := by omega
    rw [spanned, if_pos hextent, if_neg h]

/-- No step fails on a canvas that has pixels. -/
theorem outlineStepwise_eq {width height : Nat} (hwidth : IsExtent width) (hheight : IsExtent height)
    (c : Corners) : outlineStepwise width height c = .ok (outline? width height c) := by
  obtain ⟨hacross, hacross'⟩ := lastPixel_mem hwidth
  obtain ⟨hdown, hdown'⟩ := lastPixel_mem hheight
  have hleast : signed32.least ≤ 0 := by decide
  have hright := clampPixel_le hacross (ceil32 (c.right * Float32.ofNat width))
  have hbottom := clampPixel_le hdown (ceil32 (c.bottom * Float32.ofNat height))
  simp only [outlineStepwise, floor32_sub_one, held_eq_pure (hleast.trans hacross) hacross',
    held_eq_pure (hleast.trans hdown) hdown', pure_bind, movedInto_eq_pure hacross,
    movedInto_eq_pure hdown, spanned_eq_pure (hright.trans hacross') (hbottom.trans hdown')]
  rfl

theorem Picture.rectangleStepwise_eq {p : Picture} (hwidth : IsExtent p.canvas.width)
    (hheight : IsExtent p.canvas.height) (c : Corners) :
    p.rectangleStepwise c = .ok (p.rectangle c) := by
  unfold rectangleStepwise rectangle
  rw [outlineStepwise_eq hwidth hheight]
  cases outline? p.canvas.width p.canvas.height c with
  | none => rfl
  | some outline => rfl

end FrameDetect.Publish
