import FrameDetect.Proofs.Basic
import FrameDetect.Proofs.Image.Canvas
import FrameDetect.Proofs.Publish.Drawing

/-!
# Outlines since the last clear

A picture may be cleared and drawn on in any order.  It shows the outlines of the rectangles that have been drawn
since it was cleared last, and nothing else: an outline stays until then, and drawing it again changes nothing.
-/

namespace FrameDetect.Publish

open FrameDetect.Detect (Corners)
open FrameDetect.Image (Canvas Outline Pixel)

/-- What can be asked of a picture. -/
inductive Drawing where
  | clear
  | rectangle (corners : Corners)

namespace Picture

/-- What a picture does when it is asked to. -/
def draw (p : Picture) : Drawing → Picture
  | .clear => p.clear
  | .rectangle c => p.rectangle c

/-- The same, with each step that can fail. -/
def drawStepwise (p : Picture) : Drawing → Except DrawingFault Picture
  | .clear => .ok p.clear
  | .rectangle c => p.rectangleStepwise c

/-- One drawing after the other. -/
def drawAll (p : Picture) (drawings : List Drawing) : Picture := drawings.foldl draw p

end Picture

/-- A rectangle has been drawn and not been cleared since. -/
def Current (c : Corners) (drawings : List Drawing) : Prop :=
  Since (· = .rectangle c) (· ≠ .clear) drawings

/-- A pixel is on the border of a rectangle that has been drawn and not been cleared since. -/
def Outlined (width height : Nat) (drawings : List Drawing) (x y : Nat) : Prop :=
  ∃ c o, Current c drawings ∧ Clamped width height c o ∧ o.Borders x y

/-- What a picture shows after some drawings. -/
structure Shows (width height : Nat) (drawings : List Drawing) (p : Picture) : Prop where
  width_eq : p.canvas.width = width
  height_eq : p.canvas.height = height
  full : p.canvas.Full
  isCovered_iff : ∀ x y, p.canvas.isCovered x y = true ↔
    (x < width ∧ y < height) ∧ Outlined width height drawings x y

/-! ## One drawing -/

section

variable {width height x y : Nat} {drawings : List Drawing} {p : Picture} {c c' : Corners}

theorem not_current_clear : ¬Current c (drawings ++ [.clear]) := by
  intro h
  rcases (since_concat_iff drawings .clear).1 h with hlast | ⟨hlast, -⟩
  · cases hlast
  · exact hlast rfl

theorem current_rectangle_iff : Current c (drawings ++ [.rectangle c']) ↔ c' = c ∨ Current c drawings := by
  unfold Current
  rw [since_concat_iff, Drawing.rectangle.injEq, and_iff_right Drawing.noConfusion]

theorem outlined_rectangle_iff : Outlined width height (drawings ++ [.rectangle c]) x y ↔
    Outlined width height drawings x y ∨ ∃ o, Clamped width height c o ∧ o.Borders x y := by
  constructor
  · rintro ⟨c', o, hcurrent, hborder⟩
    rcases current_rectangle_iff.1 hcurrent with rfl | hcurrent
    · exact .inr ⟨o, hborder⟩
    · exact .inl ⟨c', o, hcurrent, hborder⟩
  · rintro (⟨c', o, hcurrent, hborder⟩ | ⟨o, hborder⟩)
    · exact ⟨c', o, current_rectangle_iff.2 (.inr hcurrent), hborder⟩
    · exact ⟨c, o, current_rectangle_iff.2 (.inl rfl), hborder⟩

/-- A clear canvas shows that no rectangle is current. -/
theorem shows_clear_canvas (h : ∀ c, ¬Current c drawings) (path : String) (width height : Nat) :
    Shows width height drawings ⟨path, .clear width height⟩ where
  width_eq := rfl
  height_eq := rfl
  full := Canvas.full_clear width height
  isCovered_iff x y := by
    rw [Canvas.isCovered_clear]
    constructor
    · intro hcovered
      cases hcovered
    · rintro ⟨-, c, o, hcurrent, -⟩
      exact absurd hcurrent (h c)

theorem Shows.clear (h : Shows width height drawings p) :
    Shows width height (drawings ++ [.clear]) p.clear := by
  obtain ⟨rfl, rfl, -, -⟩ := h
  exact shows_clear_canvas (fun _ => not_current_clear) _ _ _

theorem Shows.rectangle (h : Shows width height drawings p) (c : Corners) :
    Shows width height (drawings ++ [.rectangle c]) (p.rectangle c) := by
  obtain ⟨rfl, rfl, hfull, hcovered⟩ := h
  have hadds := Picture.adds_rectangle hfull c
  refine ⟨hadds.width_eq, hadds.height_eq, hadds.full, ?_⟩
  intro x y
  rw [hadds.isCovered_iff, hcovered, ← and_or_left, outlined_rectangle_iff]

theorem Shows.draw (h : Shows width height drawings p) (d : Drawing) :
    Shows width height (drawings ++ [d]) (p.draw d) := by
  cases d with
  | clear => exact h.clear
  | rectangle c => exact h.rectangle c

theorem Shows.drawStepwise_eq (h : Shows width height drawings p) (hwidth : IsExtent width)
    (hheight : IsExtent height) (d : Drawing) : p.drawStepwise d = .ok (p.draw d) := by
  obtain ⟨rfl, rfl, -, -⟩ := h
  cases d with
  | clear => rfl
  | rectangle c => exact Picture.rectangleStepwise_eq hwidth hheight c

end

/-! ## All drawings -/

section

variable {width height : Nat} {done done' : List Drawing} {p p' : Picture} (drawings : List Drawing)

theorem Shows.drawAll (h : Shows width height done p) :
    Shows width height (done ++ drawings) (p.drawAll drawings) := by
  induction drawings generalizing done p with
  | nil =>
    rw [List.append_nil]
    exact h
  | cons d rest ih =>
    rw [List.append_cons]
    exact ih (h.draw d)

theorem Shows.foldlM_drawStepwise_eq (h : Shows width height done p) (hwidth : IsExtent width)
    (hheight : IsExtent height) :
    drawings.foldlM Picture.drawStepwise p = .ok (p.drawAll drawings) := by
  induction drawings generalizing done p with
  | nil => rfl
  | cons d rest ih =>
    rw [List.foldlM_cons, h.drawStepwise_eq hwidth hheight d]
    exact ih (h.draw d)

theorem path_draw (p : Picture) (d : Drawing) : (p.draw d).path = p.path := by
  cases d with
  | clear => rfl
  | rectangle c =>
    show (p.rectangle c).path = p.path
    unfold Picture.rectangle
    cases outline? p.canvas.width p.canvas.height c with
    | none => rfl
    | some outline => rfl

theorem path_drawAll (p : Picture) : (p.drawAll drawings).path = p.path := by
  induction drawings generalizing p with
  | nil => rfl
  | cons d rest ih => exact (ih (p.draw d)).trans (path_draw p d)

variable {drawings}

/-- What a picture shows depends on nothing but the rectangles that have been drawn since it was cleared last. -/
theorem Shows.eq (h : Shows width height done p) (h' : Shows width height done' p') (hpath : p.path = p'.path)
    (hcurrent : ∀ c, Current c done ↔ Current c done') : p = p' := by
  obtain ⟨path, canvas⟩ := p
  obtain ⟨path', canvas'⟩ := p'
  obtain rfl : path = path' := hpath
  have hcanvas : canvas = canvas' := by
    apply h.full.ext h'.full (h.width_eq.trans h'.width_eq.symm) (h.height_eq.trans h'.height_eq.symm)
    intro x y
    rw [h.isCovered_iff, h'.isCovered_iff]
    simp only [Outlined, hcurrent]
  rw [hcanvas]

/-- Each pixel has the outline colour or is clear, and has the colour just if it is outlined. -/
theorem Shows.pixel (h : Shows width height done p) {x y : Nat} (hx : x < width) (hy : y < height) :
    (p.canvas.raster.pixel x y = Canvas.outlineColour ∨ p.canvas.raster.pixel x y = Pixel.clear) ∧
      (p.canvas.raster.pixel x y = Canvas.outlineColour ↔ Outlined width height done x y) := by
  obtain ⟨rfl, rfl, -, hcovered⟩ := h
  have hiff := (hcovered x y).trans (and_iff_right ⟨hx, hy⟩)
  rw [Canvas.pixel_raster _ hx hy]
  by_cases hpixel : p.canvas.isCovered x y = true
  · rw [if_pos hpixel]
    exact ⟨.inl rfl, iff_of_true rfl (hiff.1 hpixel)⟩
  · rw [if_neg hpixel]
    exact ⟨.inr rfl, iff_of_false Canvas.outlineColour_ne_clear.symm (mt hiff.2 hpixel)⟩

/-- After a clear, the rectangles drawn since then are the current ones, in whatever order and however often. -/
theorem current_cycle_iff (earlier : List Drawing) (cycle : List Corners) (c : Corners) :
    Current c (earlier ++ .clear :: cycle.map .rectangle) ↔ c ∈ cycle := by
  induction cycle using List.reverseRecOn with
  | nil => simp [not_current_clear]
  | append_singleton init last ih =>
    have happend : earlier ++ Drawing.clear :: (init ++ [last]).map .rectangle =
        (earlier ++ .clear :: init.map .rectangle) ++ [.rectangle last] := by
      rw [List.map_append, List.map_singleton, ← List.cons_append, ← List.append_assoc]
    rw [happend, current_rectangle_iff, ih, List.mem_append, List.mem_singleton, or_comm, eq_comm]

end

theorem isExtent_max (n : UInt32) : IsExtent (max n.toNat 1) :=
  ⟨by omega, max_lt n.toNat_lt (by norm_num)⟩

theorem shows_blank (path : String) (width height : UInt32) :
    Shows (max width.toNat 1) (max height.toNat 1) [] (.blank path width height) :=
  shows_clear_canvas (fun _ => not_since_nil) _ _ _

/-- A picture of a size that can be had starts without outlines. -/
theorem eq_blank_of_ofSize {path : String} {width height : UInt32} {made : Picture}
    (h : Picture.ofSize path width height = .ok made) : made = .blank path width height := by
  rw [Picture.ofSize_eq] at h
  split at h
  next => exact (Except.ok.inj h).symm
  next => cases h

/-- Whatever is drawn on a picture of whatever size: no step of it fails, the size stays, and the pixels of the
outline colour are those on the border of a rectangle that has been drawn since the picture was cleared last, while
all others are clear.  So neither the order and repetition of rectangles matters nor what came before the
last clear. -/
theorem picture_is_outlines_since_clear (path : String) (width height : UInt32) (drawings : List Drawing) :
    let start := Picture.blank path width height
    let p := start.drawAll drawings
    (∀ made, Picture.ofSize path width height = .ok made → made = start) ∧
      drawings.foldlM Picture.drawStepwise start = .ok p ∧
      p.canvas.width = max width.toNat 1 ∧ p.canvas.height = max height.toNat 1 ∧
      (∀ x y, x < p.canvas.width → y < p.canvas.height →
        (p.canvas.raster.pixel x y = Canvas.outlineColour ∨ p.canvas.raster.pixel x y = Pixel.clear) ∧
        (p.canvas.raster.pixel x y = Canvas.outlineColour ↔
          Outlined p.canvas.width p.canvas.height drawings x y)) ∧
      (∀ drawings', (∀ c, Current c drawings ↔ Current c drawings') → p = start.drawAll drawings') ∧
      ∀ earlier earlier' : List Drawing, ∀ cycle cycle' : List Corners, (∀ c, c ∈ cycle ↔ c ∈ cycle') →
        start.drawAll (earlier ++ .clear :: cycle.map .rectangle) =
          start.drawAll (earlier' ++ .clear :: cycle'.map .rectangle) := by
  intro start p
  have hstart : Shows (max width.toNat 1) (max height.toNat 1) [] start := shows_blank path width height
  have hshows : ∀ ds, Shows (max width.toNat 1) (max height.toNat 1) ds (start.drawAll ds) :=
    fun ds => hstart.drawAll ds
  have hsame : ∀ ds ds', (∀ c, Current c ds ↔ Current c ds') → start.drawAll ds = start.drawAll ds' := by
    intro ds ds' hcurrent
    have hpath := (path_drawAll ds start).trans (path_drawAll ds' start).symm
    exact (hshows ds).eq (hshows ds') hpath hcurrent
  obtain ⟨hwidth, hheight, -, -⟩ := hshows drawings
  refine ⟨fun made hmade => eq_blank_of_ofSize hmade, ?_, hwidth, hheight, ?_, hsame drawings, ?_⟩
  · exact hstart.foldlM_drawStepwise_eq drawings (isExtent_max width) (isExtent_max height)
  · intro x y hx hy
    rw [hwidth, hheight]
    exact (hshows drawings).pixel (hx.trans_eq hwidth) (hy.trans_eq hheight)
  · intro earlier earlier' cycle cycle' hmem
    apply hsame
    intro c
    rw [current_cycle_iff, current_cycle_iff, hmem]

end FrameDetect.Publish
