import FrameDetect.Image.Canvas
import Mathlib.Data.Nat.Basic
import Mathlib.Tactic.Common

/-!
# Covered pixels

Drawing never uncovers a pixel, and it covers just the pixels of the border that lie on the canvas.  The marks
of a canvas are numbered row by row, so that each pixel has a mark of its own.
-/

namespace FrameDetect.Image

/-- The pixels on the border of a rectangle. -/
def Outline.Borders (o : Outline) (x y : Nat) : Prop :=
  (o.left ≤ x ∧ x ≤ o.right ∧ o.top ≤ y ∧ y ≤ o.bottom) ∧
    (x = o.left ∨ x = o.right ∨ y = o.top ∨ y = o.bottom)

instance (o : Outline) (x y : Nat) : Decidable (o.Borders x y) := by
  unfold Outline.Borders
  infer_instance

namespace Canvas

/-- A canvas with a mark for each of its pixels. -/
def Full (c : Canvas) : Prop := c.covered.size = c.width * c.height

variable {c c' c'' : Canvas}

/-! ## Marks of pixels -/

section

variable {w x y : Nat}

theorem place_mod (hx : x < w) : (y * w + x) % w = x := by
  rw [Nat.mul_comm, Nat.mul_add_mod_self_left, Nat.mod_eq_of_lt hx]

theorem place_div (hx : x < w) : (y * w + x) / w = y := by
  rw [Nat.mul_comm, Nat.mul_add_div (Nat.zero_lt_of_lt hx), Nat.div_eq_of_lt hx, Nat.add_zero]

theorem place_eq_iff {x' y' : Nat} (hx : x < w) (hx' : x' < w) :
    y * w + x = y' * w + x' ↔ x = x' ∧ y = y' := by
  constructor
  · intro h
    constructor
    · rw [← place_mod (y := y) hx, h, place_mod hx']
    · rw [← place_div (y := y) hx, h, place_div hx']
  · rintro ⟨rfl, rfl⟩
    rfl

theorem place_lt_iff {height : Nat} (hx : x < w) : y * w + x < w * height ↔ y < height := by
  rw [Nat.mul_comm w, ← Nat.div_lt_iff_lt_mul (Nat.zero_lt_of_lt hx), place_div hx]

end

theorem full_clear (width height : Nat) : (clear width height).Full := Array.size_replicate

theorem isCovered_clear (width height x y : Nat) : (clear width height).isCovered x y = false := by
  unfold isCovered clear
  by_cases hin : y * width + x < width * height
  · simp [hin]
  · simp [hin]

/-- Canvases of one size that cover the same pixels are equal. -/
theorem Full.ext (h : c.Full) (h' : c'.Full) (hwidth : c.width = c'.width)
    (hheight : c.height = c'.height)
    (hcovered : ∀ x y, c.isCovered x y = true ↔ c'.isCovered x y = true) : c = c' := by
  obtain ⟨w, height, marks⟩ := c
  obtain ⟨w', height', marks'⟩ := c'
  obtain rfl : w = w' := hwidth
  obtain rfl : height = height' := hheight
  have hmarks : marks = marks' := by
    apply Array.ext (h.trans h'.symm)
    intro i hi hi'
    have hsize : i < height * w := by rw [Nat.mul_comm, ← h]; exact hi
    have hpos : 0 < w := Nat.pos_of_ne_zero fun hzero => by simp [hzero] at hsize
    have hplace : i / w * w + i % w = i := Nat.div_add_mod' i w
    have hpixel := hcovered (i % w) (i / w)
    simp only [isCovered, hplace, Nat.mod_lt i hpos, decide_true, Bool.true_and,
      Array.getElem?_eq_getElem hi, Array.getElem?_eq_getElem hi', Option.getD_some] at hpixel
    exact Bool.eq_iff_iff.2 hpixel
  rw [hmarks]

/-! ## What drawing covers -/

/-- The second canvas is the first with the pixels of `P` covered as well. -/
structure Adds (c : Canvas) (P : Nat → Nat → Prop) (c' : Canvas) : Prop where
  width_eq : c'.width = c.width
  height_eq : c'.height = c.height
  full : c'.Full
  isCovered_iff : ∀ x y, c'.isCovered x y = true ↔
    c.isCovered x y = true ∨ (x < c.width ∧ y < c.height) ∧ P x y

variable {P Q R : Nat → Nat → Prop}

/-- Pixels that are not on the canvas are ignored. -/
theorem Full.adds_nothing (h : c.Full) (hP : ∀ x y, x < c.width → y < c.height → ¬P x y) :
    c.Adds P c where
  width_eq := rfl
  height_eq := rfl
  full := h
  isCovered_iff x y := by
    constructor
    · exact .inl
    · rintro (hcovered | ⟨⟨hx, hy⟩, hpixel⟩)
      · exact hcovered
      · exact absurd hpixel (hP x y hx hy)

theorem Adds.congr (h : c.Adds P c') (hPQ : ∀ x y, P x y ↔ Q x y) : c.Adds Q c' where
  width_eq := h.width_eq
  height_eq := h.height_eq
  full := h.full
  isCovered_iff x y := by rw [h.isCovered_iff, hPQ]

theorem Adds.trans (h : c.Adds P c') (h' : c'.Adds Q c'') (hR : ∀ x y, R x y ↔ P x y ∨ Q x y) :
    c.Adds R c'' where
  width_eq := h'.width_eq.trans h.width_eq
  height_eq := h'.height_eq.trans h.height_eq
  full := h'.full
  isCovered_iff x y := by
    rw [h'.isCovered_iff, h.isCovered_iff, h.width_eq, h.height_eq, hR, or_assoc, ← and_or_left]

theorem Full.adds_cover (h : c.Full) (x y : Nat) :
    c.Adds (fun x' y' => x' = x ∧ y' = y) (c.cover x y) := by
  by_cases hx : x < c.width
  · unfold cover
    rw [if_pos hx]
    refine ⟨rfl, rfl, Array.size_setIfInBounds.trans h, ?_⟩
    intro x' y'
    by_cases hx' : x' < c.width
    · -- no other pixel of the canvas has the mark that is set
      have hsame : y * c.width + x = y' * c.width + x' ↔ x' = x ∧ y' = y := by
        rw [place_eq_iff hx hx', eq_comm, @eq_comm _ y]
      simp only [isCovered, hx', decide_true, Bool.true_and, true_and,
        Array.getElem?_setIfInBounds, hsame]
      by_cases hpixel : x' = x ∧ y' = y
      · obtain ⟨rfl, rfl⟩ := hpixel
        by_cases hy : y' < c.height
        · have hmark : y' * c.width + x' < c.covered.size := by
            rw [h]
            exact (place_lt_iff hx).2 hy
          simp [hmark, hy]
        · have hmark : ¬y' * c.width + x' < c.covered.size := by
            rw [h]
            exact fun hin => hy ((place_lt_iff hx).1 hin)
          simp [hmark, hy]
      · simp [hpixel]
    · simp [isCovered, hx']
  · unfold cover
    rw [if_neg hx]
    apply h.adds_nothing
    intro x' y' hx' _ hpixel
    exact hx (hpixel.1 ▸ hx')

theorem Full.adds_coverRight (h : c.Full) (x y length : Nat) :
    c.Adds (fun x' y' => (x ≤ x' ∧ x' < x + length) ∧ y' = y) (c.coverRight x y length) := by
  induction length generalizing c x with
  | zero =>
    apply h.adds_nothing
    intro x' y' _ _ hpixel
    omega
  | succ length ih =>
    have hfirst := h.adds_cover x y
    refine hfirst.trans (ih hfirst.full (x + 1)) ?_
    intro x' y'
    omega

theorem Full.adds_coverDown (h : c.Full) (x y length : Nat) :
    c.Adds (fun x' y' => x' = x ∧ y ≤ y' ∧ y' < y + length) (c.coverDown x y length) := by
  induction length generalizing c y with
  | zero =>
    apply h.adds_nothing
    intro x' y' _ _ hpixel
    omega
  | succ length ih =>
    have hfirst := h.adds_cover x y
    refine hfirst.trans (ih hfirst.full (y + 1)) ?_
    intro x' y'
    omega

/-- Drawing a rectangle covers its border. -/
theorem Full.adds_draw (h : c.Full) {o : Outline} (hacross : o.left ≤ o.right)
    (hdown : o.top ≤ o.bottom) : c.Adds o.Borders (c.draw o) := by
  have htop := h.adds_coverRight o.left o.top (o.right + 1 - o.left)
  have hbottom := htop.full.adds_coverRight o.left o.bottom (o.right + 1 - o.left)
  have hleft := hbottom.full.adds_coverDown o.left o.top (o.bottom + 1 - o.top)
  have hright := hleft.full.adds_coverDown o.right o.top (o.bottom + 1 - o.top)
  refine ((htop.trans hbottom fun _ _ => Iff.rfl).trans hleft fun _ _ => Iff.rfl).trans hright ?_
  intro x y
  unfold Outline.Borders
  omega

/-! ## The colours of a canvas -/

theorem outlineColour_ne_clear : outlineColour ≠ Pixel.clear := by decide

theorem pixel_raster (c : Canvas) {x y : Nat} (hx : x < c.width) (hy : y < c.height) :
    c.raster.pixel x y = if c.isCovered x y then outlineColour else .clear := by
  unfold Raster.pixel raster Raster.ofFn
  simp [hx, (place_lt_iff hx).2 hy, place_mod hx, place_div hx]

end Canvas

end FrameDetect.Image
