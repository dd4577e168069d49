import FrameDetect.Proofs.Number.Packing
import FrameDetect.Tensor.View

/-!
# Decoded numbers

A manifest describes a layout just if its sizes and its quantization are usable and its rows fit the
address space.  The layout then has a finite zero point and a finite positive scale, and with these
every byte of a tensor stands for a number.
-/

namespace FrameDetect.Tensor

open FrameDetect.Number (isNaN_mul isNaN_ofUInt8 isNaN_sub not_le_zero_iff)

/-! ## Manifests that describe a layout -/

/-- The numbers of a manifest for which there is a layout. -/
structure Manifest.Describes (m : Manifest) : Prop where
  inputWidth : m.inputWidth ≠ 0
  inputHeight : m.inputHeight ≠ 0
  classes : m.classes ≠ 0
  rows : m.rows ≠ 0
  scale_finite : m.scale.isFinite = true
  scale_pos : 0 < m.scale
  zeroPoint_finite : m.zeroPoint.isFinite = true
  fits : m.rows.toNat * (boxFields + m.classes.toNat) < addressSpace

/-- A layout with the numbers of a manifest. -/
structure Layout.Matches (l : Layout) (m : Manifest) : Prop where
  inputWidth : l.inputWidth = m.inputWidth
  inputHeight : l.inputHeight = m.inputHeight
  quantization : l.quantization = ⟨m.scale, m.zeroPoint⟩
  classes : l.classes = m.classes.toNat
  rows : l.rows = m.rows.toNat
  tensorSize : l.tensorSize = m.rows.toNat * (boxFields + m.classes.toNat)

theorem Layout.matches_of_ofManifest {m : Manifest} {l : Layout} (h : Layout.ofManifest m = .ok l) :
    m.Describes ∧ l.Matches m := by
  unfold Layout.ofManifest at h
  split_ifs at h with hwidth hheight hclasses hrows hscale hzero hfits
  cases h
  simp only [Bool.or_eq_true, not_or, Bool.not_eq_true', Bool.not_eq_false, decide_eq_true_eq]
    at hscale hzero
  obtain ⟨hfinite, hpos⟩ := hscale
  refine ⟨⟨hwidth, hheight, ?_, ?_, hfinite, (not_le_zero_iff hfinite).1 hpos, hzero, hfits⟩,
    rfl, rfl, rfl, rfl, rfl, rfl⟩
  · rintro heq
    exact hclasses (congrArg UInt64.toNat heq)
  · rintro heq
    exact hrows (congrArg UInt64.toNat heq)

theorem Layout.exists_of_describes {m : Manifest} (h : m.Describes) :
    ∃ l, Layout.ofManifest m = .ok l := by
  have hclasses : ¬m.classes.toNat = 0 := fun heq => h.classes (UInt64.toNat_inj.1 heq)
  have hrows : ¬m.rows.toNat = 0 := fun heq => h.rows (UInt64.toNat_inj.1 heq)
  have hscale : ¬(!m.scale.isFinite || decide (m.scale ≤ 0)) = true := by
    simp [h.scale_finite, (not_le_zero_iff h.scale_finite).2 h.scale_pos]
  have hzero : ¬(!m.zeroPoint.isFinite) = true := by simp [h.zeroPoint_finite]
  unfold Layout.ofManifest
  rw [if_neg h.inputWidth, if_neg h.inputHeight, dif_neg hclasses, dif_neg hrows, if_neg hscale,
    if_neg hzero, dif_pos h.fits]
  exact ⟨_, rfl⟩

/-- A manifest is accepted just if its numbers are usable. -/
theorem Layout.exists_ofManifest_iff (m : Manifest) :
    (∃ l, Layout.ofManifest m = .ok l) ↔ m.Describes :=
  ⟨fun ⟨_, h⟩ => (Layout.matches_of_ofManifest h).1, Layout.exists_of_describes⟩

/-! ## Usable quantizations -/

/-- A scale and a zero point under which every byte stands for a number. -/
structure Quantization.Usable (q : Quantization) : Prop where
  scale_finite : q.scale.isFinite = true
  scale_pos : ¬q.scale ≤ 0
  zeroPoint_finite : q.zeroPoint.isFinite = true

/-- The checks on a manifest make sure of a usable quantization. -/
theorem Layout.usable_of_ofManifest {m : Manifest} {l : Layout} (h : Layout.ofManifest m = .ok l) :
    l.quantization.Usable := by
  obtain ⟨hm, hl⟩ := Layout.matches_of_ofManifest h
  rw [hl.quantization]
  exact ⟨hm.scale_finite, (not_le_zero_iff hm.scale_finite).2 hm.scale_pos, hm.zeroPoint_finite⟩

/-- A byte never stands for what is not a number. -/
theorem Quantization.Usable.isNaN_dequantize {q : Quantization} (h : q.Usable) (raw : UInt8) :
    (q.dequantize raw).isNaN = false :=
  isNaN_mul (isNaN_sub (isNaN_ofUInt8 raw) h.zeroPoint_finite) h.scale_finite h.scale_pos

/-- Decoding gives numbers in every field of every row. -/
theorem View.isNaN_field {v : View} (h : v.layout.quantization.Usable) (i : Fin v.rows)
    (k : Fin v.layout.rowSize) : (v.field i k).isNaN = false :=
  h.isNaN_dequantize _

theorem View.isNaN_objectness {v : View} (h : v.layout.quantization.Usable) (i : Fin v.rows) :
    (v.objectness i).isNaN = false :=
  v.isNaN_field h i _

/-- A view is its layout and its bytes. -/
theorem View.eq_of_bytes {v v' : View} (hlayout : v.layout = v'.layout) (hbytes : v.bytes = v'.bytes) :
    v = v' := by
  obtain ⟨layout, bytes, enough⟩ := v
  obtain ⟨layout', bytes', enough'⟩ := v'
  obtain rfl : layout = layout' := hlayout
  obtain rfl : bytes = bytes' := hbytes
  rfl

/-- A manifest of one row with one class. -/
def oneRow : Manifest := ⟨640, 640, 0.5, 4, 1, 1⟩

/-- A tensor of one row. -/
def oneRowView : View :=
  ⟨⟨640, 640, ⟨0.5, 4⟩, 1, 1, by decide, by decide, by decide⟩, ⟨#[9, 9, 6, 6, 200, 7]⟩, by decide⟩

/-- A manifest of four rows with one class, whose numbers are in `1 / 128`. -/
def fourRows : Manifest := ⟨640, 640, 0.0078125, 0, 1, 4⟩

/-- A tensor of four rows.  The second one overlaps the first, which has less objectness, and also the third, which has
too little; the last one is apart from them. -/
def fourRowsView : View :=
  ⟨⟨640, 640, ⟨0.0078125, 0⟩, 1, 4, by decide, by decide, by decide⟩,
    ⟨#[64, 64, 32, 32, 100, 110, 66, 64, 32, 32, 120, 110, 64, 66, 32, 32, 40, 110, 20, 20, 16, 16, 90, 100]⟩,
    by decide⟩

end FrameDetect.Tensor
