import FrameDetect.Proofs.Detect.Independence
import FrameDetect.Proofs.Tensor.Dequantization
import FrameDetect.Proofs.Tensor.FirstGreatest

/-!
# Comparisons of decoded numbers

The objectness of a row is compared with the confidence threshold and with that of other rows, and a class score with
the best one before it.  Each time both sides are numbers, and the outcome never contradicts the order of their bytes:
a number is smaller than another only if its byte is.  Different bytes may come to equal numbers.
-/

namespace FrameDetect.Tensor

open FrameDetect.Detect
open FrameDetect.Number

namespace View

variable (v : View)

/-- The byte of the objectness in a row. -/
def objectnessByte (i : Fin v.rows) : UInt8 := v.boxByte i ⟨4, by decide⟩

/-! ## The confidence filter -/

/-- The filter keeps a row just if its objectness is at least the threshold, and with it all rows whose objectness has
at least the same byte. -/
def FiltersByBytes : Prop :=
  ∀ (threshold : Float32) (mask : Mask), threshold.isNaN = false → v.rows = mask.size →
    ∃ mask', filterConfidence (Array.ofFn v.row) threshold mask = .ok mask' ∧ ∀ i : Fin v.rows,
      (mask'.keeps i = true ↔ threshold ≤ v.objectness i) ∧
      ∀ j : Fin v.rows, v.objectnessByte i ≤ v.objectnessByte j → mask'.keeps i = true → mask'.keeps j = true

/-- The filter keeps just the rows that are not below the threshold. -/
theorem keeps_filterConfidence (threshold : Float32) {mask : Mask} (hsize : v.rows = mask.size) :
    ∃ mask', filterConfidence (Array.ofFn v.row) threshold mask = .ok mask' ∧
      ∀ i : Fin v.rows, mask'.keeps i = true ↔ ¬v.objectness i < threshold := by
  have hfits : (Array.ofFn v.row).size = mask.size := Array.size_ofFn.trans hsize
  obtain ⟨mask', hfilter, -, hkept⟩ := filterConfidence_eq threshold hfits
  refine ⟨mask', hfilter, fun i => ?_⟩
  have hrow : (Array.ofFn v.row)[i.val]? = some (v.row i) := by simp
  have hkeeps : (v.row i, i.val) ∈ mask'.kept 0 (Array.ofFn v.row).toList ↔ mask'.keeps i = true :=
    mem_kept_iff.trans (and_iff_right hrow)
  have hcandidate : (v.row i, i.val) ∈ Detect.candidates (Array.ofFn v.row) threshold ↔
      ¬v.objectness i < threshold := by
    rw [Detect.candidates, List.mem_filter, List.mem_zipIdx_iff_getElem?, Array.getElem?_toList, and_iff_right hrow,
      Bool.not_eq_true', decide_eq_false_iff_not]
    rfl
  rw [← hkeeps, hkept, hcandidate]

variable {v}

theorem filtersByBytes (h : v.layout.quantization.Usable) : v.FiltersByBytes := by
  intro threshold mask hthreshold hsize
  obtain ⟨mask', hfilter, hkeeps⟩ := v.keeps_filterConfidence threshold hsize
  have hiff (i : Fin v.rows) : mask'.keeps i = true ↔ threshold ≤ v.objectness i :=
    (hkeeps i).trans (not_lt_iff (v.isNaN_objectness h i) hthreshold)
  refine ⟨mask', hfilter, fun i => ⟨hiff i, ?_⟩⟩
  intro j hbytes hi
  have hmono : v.objectness i ≤ v.objectness j := h.dequantize_mono hbytes
  exact (hiff j).2 (le_trans_le ((hiff i).1 hi) hmono)

/-! ## The comparison of two rows -/

variable (v) in
/-- Of two rows the one with the greater objectness wins, and its byte is the greater one.  The tie break decides
between equals only. -/
def WinsByBytes (tie : TieBreak) (i j : Fin v.rows) : Prop :=
  v.objectness i < v.objectness j ∧ v.objectnessByte i < v.objectnessByte j ∧
      secondWins tie (v.row i) (v.row j) = true ∨
    (v.objectness i == v.objectness j) = true ∧
      secondWins tie (v.row i) (v.row j) = decide (tie = .earlier) ∨
    v.objectness j < v.objectness i ∧ v.objectnessByte j < v.objectnessByte i ∧
      secondWins tie (v.row i) (v.row j) = false

theorem winsByBytes (h : v.layout.quantization.Usable) (tie : TieBreak) (i j : Fin v.rows) :
    v.WinsByBytes tie i j := by
  rw [WinsByBytes, secondWins]
  rcases h.inByteOrder_dequantize (v.objectnessByte i) (v.objectnessByte j) with
    ⟨hless, hbytes⟩ | hequal | ⟨hgreater, hbytes⟩
  · exact .inl ⟨hless, hbytes, (if_neg (not_lt_of_lt hless)).trans (if_pos hless)⟩
  · obtain ⟨hnot, hnot'⟩ := not_lt_of_beq hequal
    exact .inr (.inl ⟨hequal, (if_neg hnot').trans (if_neg hnot)⟩)
  · exact .inr (.inr ⟨hgreater, hbytes, if_pos hgreater⟩)

/-! ## The pass over class scores -/

variable (v) in
/-- The pass over the scores of a row compares the first one with what is below all numbers, and each other one with
that of a class before it. -/
def PassesByBytes (i : Fin v.rows) (k : Fin v.layout.classes) : Prop :=
  k.val = 0 ∧ bestClass ((v.scores i).take k) = ⟨0, belowAll⟩ ∧ belowAll ≤ v.classScore i k ∨
    ∃ b < k, bestClass ((v.scores i).take k) = ⟨b, v.classScore i b⟩ ∧
      InByteOrder (v.classByte i b) (v.classByte i k) (v.classScore i b) (v.classScore i k)

theorem passesByBytes (h : v.layout.quantization.Usable) (i : Fin v.rows) (k : Fin v.layout.classes) :
    v.PassesByBytes i k := by
  rcases Nat.eq_zero_or_pos k.val with hzero | hpos
  · refine .inl ⟨hzero, ?_, belowAll_le (h.isNaN_dequantize _)⟩
    rw [hzero, List.take_zero]
    rfl
  · have hpositive : 0 < ((v.scores i).take k).length := by
      rw [List.length_take, scores_eq, List.length_ofFn]
      exact Nat.lt_min.2 ⟨hpos, v.layout.classes_pos⟩
    have numbers : ∀ s ∈ (v.scores i).take k, s.isNaN = false :=
      fun _ hs => isNaN_of_mem_scores h (List.mem_of_mem_take hs)
    have hfound := getElem?_bestClass numbers hpositive
    -- the best of the first `k` scores is that of a class before `k`
    rw [List.getElem?_take] at hfound
    split at hfound
    case isFalse => cases hfound
    case isTrue hindex =>
      let b : Fin v.layout.classes := ⟨(bestClass ((v.scores i).take k)).index, hindex.trans k.isLt⟩
      have hscore : v.classScore i b = (bestClass ((v.scores i).take k)).score :=
        Option.some.inj ((v.getElem?_scores i b).symm.trans hfound)
      exact .inr ⟨b, hindex, congrArg (ClassScore.mk b) hscore.symm, h.inByteOrder_dequantize _ _⟩

end View

/-- Under a finite positive scale and a finite zero point every byte stands for a number, a greater byte never for a
smaller one.  No byte below the zero point stands for a positive number and no byte above it for a negative one, and
the zero point itself stands for positive zero.  So no two numbers that a tensor is decoded to are unordered, and where
the filter, the comparison of two rows or the pass over class scores finds one to be smaller, so is its byte. -/
theorem decoding_follows_bytes {q : Quantization} (scale_finite : q.scale.isFinite = true) (scale_pos : 0 < q.scale)
    (zeroPoint_finite : q.zeroPoint.isFinite = true) :
    (∀ r s : UInt8, r ≤ s → (q.dequantize r).isNaN = false ∧ (q.dequantize s).isNaN = false ∧
        q.dequantize r ≤ q.dequantize s) ∧
      (∀ raw : UInt8, (raw.toFloat32 < q.zeroPoint → q.dequantize raw ≤ 0) ∧
        (q.zeroPoint < raw.toFloat32 → 0 ≤ q.dequantize raw) ∧
        ((raw.toFloat32 == q.zeroPoint) = true → q.dequantize raw = 0)) ∧
      ∀ v : View, v.layout.quantization = q →
        (∀ i j, InByteOrder (v.objectnessByte i) (v.objectnessByte j) (v.objectness i) (v.objectness j)) ∧
        (∀ i j k k', InByteOrder (v.classByte i k) (v.classByte j k') (v.classScore i k) (v.classScore j k')) ∧
        v.FiltersByBytes ∧ (∀ tie i j, v.WinsByBytes tie i j) ∧ ∀ i k, v.PassesByBytes i k := by
  have h : q.Usable := ⟨scale_finite, (not_le_zero_iff scale_finite).2 scale_pos, zeroPoint_finite⟩
  refine ⟨fun r s hrs => ⟨h.isNaN_dequantize r, h.isNaN_dequantize s, h.dequantize_mono hrs⟩, fun raw => ?_, ?_⟩
  · exact ⟨fun below => h.dequantize_nonpos (lt_imp_le below),
      fun above => h.dequantize_nonneg (lt_imp_le above), h.dequantize_eq_zero⟩
  · rintro v rfl
    refine ⟨fun i j => ?_, fun i j k k' => ?_, ?_, ?_, ?_⟩
    · exact h.inByteOrder_dequantize (v.objectnessByte i) (v.objectnessByte j)
    · exact h.inByteOrder_dequantize (v.classByte i k) (v.classByte j k')
    · exact View.filtersByBytes h
    · exact View.winsByBytes h
    · exact View.passesByBytes h

/-- A manifest of two rows with two classes, whose scale is so large that most bytes stand for an infinity. -/
def steep : Manifest := ⟨640, 640, .ofBits 0x7e000000, 100, 2, 2⟩

theorem steep_fits : 2 * (boxFields + 2) < addressSpace := by decide

/-- A tensor whose rows differ in the bytes of their objectness. -/
def steepView : View :=
  ⟨⟨640, 640, ⟨.ofBits 0x7e000000, 100⟩, 2, 2, Nat.two_pos, Nat.two_pos, steep_fits⟩,
    ⟨#[101, 101, 101, 101, 200, 3, 99, 101, 101, 101, 101, 255, 100, 250]⟩, by decide⟩

theorem decoding_follows_bytes_steep :
    Layout.ofManifest steep = .ok steepView.layout ∧ steep.scale.isFinite = true ∧ 0 < steep.scale ∧
      steep.zeroPoint.isFinite = true ∧
      steepView.layout.quantization.dequantize 99 ≤ steepView.layout.quantization.dequantize 200 ∧
      steepView.layout.quantization.dequantize 99 ≤ 0 ∧
      0 ≤ steepView.layout.quantization.dequantize 200 ∧
      steepView.layout.quantization.dequantize 100 = 0 ∧
      steepView.FiltersByBytes ∧ (∀ tie i j, steepView.WinsByBytes tie i j) ∧ ∀ i k, steepView.PassesByBytes i k := by
  have layout : Layout.ofManifest steep = .ok steepView.layout := rfl
  have finite : steep.scale.isFinite = true := by decide
  have positive : 0 < steep.scale := by decide
  have finite' : steep.zeroPoint.isFinite = true := by decide
  obtain ⟨order, signs, views⟩ := decoding_follows_bytes (q := ⟨steep.scale, steep.zeroPoint⟩) finite positive finite'
  exact ⟨layout, finite, positive, finite', (order 99 200 (by decide)).2.2, (signs 99).1 (by decide),
    (signs 200).2.1 (by decide), (signs 100).2.2 (by decide), (views steepView rfl).2.2⟩

-- the tie break decides between rows whose bytes differ but overflow to the same number
example : secondWins .later (steepView.row ⟨0, by decide⟩) (steepView.row ⟨1, by decide⟩) = false ∧
    steepView.objectnessByte ⟨0, by decide⟩ < steepView.objectnessByte ⟨1, by decide⟩ := by decide +kernel

end FrameDetect.Tensor
