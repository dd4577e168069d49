import FrameDetect.Proofs.Detect.Separate

/-!
# Decoded boxes apart

Every byte of a tensor stands for a number, but large ones may overflow.  Two decoded boxes that lie apart overlap by
zero just if nothing on the way to the area that they cover makes it something else than a number, and then neither of
their rows ever rejects the other.
-/

namespace FrameDetect.Tensor

open FrameDetect.Detect
open FrameDetect.Number

/-- With a moderate scale and zero point, no byte stands for a large number. -/
theorem Quantization.within_dequantize {q : Quantization} (hscale : Within 54 q.scale)
    (hzeroPoint : Within 8 q.zeroPoint) (raw : UInt8) : Within 63 (q.dequantize raw) := by
  have hraw : Within 8 raw.toFloat32 := by
    apply Within.of_hasValue (hasValue_ofUInt8 raw)
    rw [Nat.abs_cast]
    exact_mod_cast raw.toNat_lt.le
  exact (hraw.sub hzeroPoint (by omega)).mul hscale (by omega)

theorem View.forall_boxField {v : View} (i : Fin v.rows) {P : Float32 → Prop}
    (h : ∀ raw, P (v.layout.quantization.dequantize raw)) :
    ∀ x ∈ [(v.box i).centerX, (v.box i).centerY, (v.box i).width, (v.box i).height], P x := by
  simp only [List.forall_mem_cons, List.not_mem_nil, false_imp_iff, forall_true_iff, and_true]
  exact ⟨h _, h _, h _, h _⟩

/-- Two decoded boxes apart overlap by zero just if they cover an area, and else as a whole.  They always cover one
under a moderate scale and zero point.  As long as they do, a comparison of their rows changes nothing, in whatever order
and for whatever threshold; where they do not, they conflict for every threshold below one. -/
theorem boxes_apart_overlap_unless_unmeasured {m : Manifest} {l : Layout} (hm : Layout.ofManifest m = .ok l)
    {v v' : View} (hv : v.layout = l) (hv' : v'.layout = l) (i : Fin v.rows) (i' : Fin v'.rows)
    (hedged : (v.box i).Edged) (hedged' : (v'.box i').Edged) (hapart : Apart (v.box i) (v'.box i')) :
    ((overlap (v.box i) (v'.box i') == 0) = true ↔ ¬Unmeasured (v.box i) (v'.box i')) ∧
      (Unmeasured (v.box i) (v'.box i') → overlap (v.box i) (v'.box i') = 1) ∧
      (Within 54 l.quantization.scale → Within 8 l.quantization.zeroPoint →
        ¬Unmeasured (v.box i) (v'.box i')) ∧
      (¬Unmeasured (v.box i) (v'.box i') → ∀ threshold : Float32, 0 ≤ threshold →
        ∀ (tie : TieBreak) (k j : Nat) (rest : List Row) (mask : Mask),
          sweep threshold tie k (v.row i) j (v'.row i' :: rest) mask =
            sweep threshold tie k (v.row i) (j + 1) rest mask ∧
          sweep threshold tie k (v'.row i') j (v.row i :: rest) mask =
            sweep threshold tie k (v'.row i') (j + 1) rest mask) ∧
      (Unmeasured (v.box i) (v'.box i') → ∀ threshold : Float32, threshold < 1 →
        conflicts threshold (v.row i) (v'.row i') = true ∧ conflicts threshold (v'.row i') (v.row i) = true) := by
  have husable := Layout.usable_of_ofManifest hm
  have hnum := v.forall_boxField i (P := fun x => x.isNaN = false) (hv ▸ husable.isNaN_dequantize)
  have hnum' := v'.forall_boxField i' (P := fun x => x.isNaN = false) (hv' ▸ husable.isNaN_dequantize)
  simp only [List.forall_mem_cons] at hnum hnum'
  have hshared := hapart.shared_beq_zero hedged hedged'
  have hcovered := isNaN_coveredArea_iff hshared hnum.2.2.1 hnum.2.2.2.1 hnum'.2.2.1 hnum'.2.2.2.1
  have hone : Unmeasured (v.box i) (v'.box i') → overlap (v.box i) (v'.box i') = 1 :=
    fun h => overlap_eq_one (hcovered.2 h)
  have hzero : ¬Unmeasured (v.box i) (v'.box i') → (overlap (v.box i) (v'.box i') == 0) = true :=
    fun h => overlap_beq_zero hshared (Bool.eq_false_iff.2 (mt hcovered.1 h))
  refine ⟨⟨?_, hzero⟩, hone, ?_, ?_, ?_⟩
  · intro hoverlap hunmeasured
    rw [hone hunmeasured] at hoverlap
    exact absurd hoverlap (by decide)
  · intro hscale hzeroPoint
    have hwithin := l.quantization.within_dequantize hscale hzeroPoint
    exact not_unmeasured (v.forall_boxField i (hv ▸ hwithin)) (v'.forall_boxField i' (hv' ▸ hwithin))
  · intro h threshold hthreshold tie k j rest mask
    have hapart : conflicts threshold (v.row i) (v'.row i') = false :=
      not_conflicts_of_beq_zero (hzero h) hthreshold
    have hapart' : conflicts threshold (v'.row i') (v.row i) = false :=
      (conflicts_comm threshold _ _).trans hapart
    exact ⟨sweep_of_apart rest (by rw [hapart, Bool.and_false]),
      sweep_of_apart rest (by rw [hapart', Bool.and_false])⟩
  · intro h threshold hthreshold
    have hconflict : conflicts threshold (v.row i) (v'.row i') = true := conflicts_of_eq_one (hone h) hthreshold
    exact ⟨hconflict, (conflicts_comm threshold _ _).trans hconflict⟩

/-- A tensor of one row whose box lies far to the right of that of `oneRowView`. -/
def farRowView : View := ⟨oneRowView.layout, ⟨#[30, 9, 6, 6, 200, 7]⟩, by decide⟩

theorem boxes_apart_overlap_unless_unmeasured_far :
    Layout.ofManifest oneRow = .ok oneRowView.layout ∧ (oneRowView.box ⟨0, by decide⟩).Edged ∧
      (farRowView.box ⟨0, by decide⟩).Edged ∧
      Apart (oneRowView.box ⟨0, by decide⟩) (farRowView.box ⟨0, by decide⟩) ∧
      ¬Unmeasured (oneRowView.box ⟨0, by decide⟩) (farRowView.box ⟨0, by decide⟩) ∧
      sweep 0 .later 0 (oneRowView.row ⟨0, by decide⟩) 1 [farRowView.row ⟨0, by decide⟩] (.clear 2) =
        sweep 0 .later 0 (oneRowView.row ⟨0, by decide⟩) 2 [] (.clear 2) := by
  have layout : Layout.ofManifest oneRow = .ok oneRowView.layout := rfl
  have edged : (oneRowView.box ⟨0, by decide⟩).Edged := by
    unfold Box.Edged
    decide +kernel
  have edged' : (farRowView.box ⟨0, by decide⟩).Edged := by
    unfold Box.Edged
    decide +kernel
  have apart : Apart (oneRowView.box ⟨0, by decide⟩) (farRowView.box ⟨0, by decide⟩) := by
    unfold Apart
    decide +kernel
  have layout' : farRowView.layout = oneRowView.layout := rfl
  have h := boxes_apart_overlap_unless_unmeasured layout rfl layout' ⟨0, by decide⟩ ⟨0, by decide⟩ edged edged' apart
  have measured := h.1.1 (by decide +kernel)
  exact ⟨layout, edged, edged', apart, measured, (h.2.2.2.1 measured 0 (by decide) .later 0 1 [] (.clear 2)).1⟩

/-- A manifest of two rows whose scale is `2 ^ 125`. -/
def twoLargeRows : Manifest := ⟨640, 640, .ofBits 0x7e000000, 0, 1, 2⟩

theorem twoRows_fit : 2 * (boxFields + 1) < addressSpace := by decide

/-- A tensor of two boxes that lie side by side, both of them so high that their heights overflow. -/
def towersView : View :=
  ⟨⟨640, 640, ⟨.ofBits 0x7e000000, 0⟩, 1, 2, Nat.one_pos, Nat.two_pos, twoRows_fit⟩,
    ⟨#[0, 0, 1, 255, 255, 1, 4, 0, 1, 255, 200, 1]⟩, by decide⟩

/-- Boxes side by side overlap as a whole if they share an infinite height, and one of them is rejected. -/
theorem towers_overlap :
    Layout.ofManifest twoLargeRows = .ok towersView.layout ∧ (towersView.box ⟨0, by decide⟩).Edged ∧
      (towersView.box ⟨1, by decide⟩).Edged ∧
      (towersView.box ⟨0, by decide⟩).rawCorners.right ≤ (towersView.box ⟨1, by decide⟩).rawCorners.left ∧
      overlap (towersView.box ⟨0, by decide⟩) (towersView.box ⟨1, by decide⟩) = 1 ∧
      suppress #[towersView.row ⟨0, by decide⟩, towersView.row ⟨1, by decide⟩] 0.5 .later (.clear 2) =
        .ok (1, Mask.reject (.clear 2) 1) := by
  refine ⟨rfl, ?_, ?_, ?_, ?_, ?_⟩
  · unfold Box.Edged
    decide +kernel
  · unfold Box.Edged
    decide +kernel
  · decide +kernel
  · decide +kernel
  · decide +kernel

end FrameDetect.Tensor
