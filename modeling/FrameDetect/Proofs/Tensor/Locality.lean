import FrameDetect.Proofs.Detect.Reference

/-!
# Which bytes a row depends on

In a layout the place of every field of every row is computed without overflow, and what a row says
depends on its own bytes and on no others.
-/

namespace FrameDetect.Tensor

/-! ## Places of fields -/

namespace Layout

variable (l : Layout)

/-- The bytes of a row lie before those of the next one. -/
theorem row_le {i : Nat} (h : i < l.rows) : (i + 1) * l.rowSize ≤ l.tensorSize :=
  Nat.mul_le_mul_right l.rowSize h

/-- A row is not longer than the tensor. -/
theorem rowSize_le : l.rowSize ≤ l.tensorSize := by
  have h := l.row_le l.rows_pos
  rwa [Nat.zero_add, Nat.one_mul] at h

/-- A number of the address space is a word. -/
theorem toNat_word {n : Nat} (h : n < addressSpace) : (UInt64.ofNat n).toNat = n :=
  UInt64.toNat_ofNat_of_lt' h

/-- The sizes and the places of fields, computed in words of 64 bits, none of which overflows. -/
structure InWords : Prop where
  rowSize : (UInt64.ofNat boxFields + UInt64.ofNat l.classes).toNat = l.rowSize
  tensorSize : (UInt64.ofNat l.rows * UInt64.ofNat l.rowSize).toNat = l.tensorSize
  start : ∀ i < l.rows, (UInt64.ofNat i * UInt64.ofNat l.rowSize).toNat = i * l.rowSize
  place : ∀ i < l.rows, ∀ k ≤ l.rowSize,
    (UInt64.ofNat i * UInt64.ofNat l.rowSize + UInt64.ofNat k).toNat = i * l.rowSize + k
  within : ∀ i < l.rows, ∀ k < l.rowSize, i * l.rowSize + k < (i + 1) * l.rowSize ∧
    (i + 1) * l.rowSize ≤ l.tensorSize

/-- Words are multiplied as numbers, if the product is a word. -/
theorem toNat_mul_words {a b : Nat} (ha : a < addressSpace) (hb : b < addressSpace)
    (h : a * b < addressSpace) : (UInt64.ofNat a * UInt64.ofNat b).toNat = a * b := by
  rw [UInt64.toNat_mul, toNat_word ha, toNat_word hb]
  exact Nat.mod_eq_of_lt h

theorem inWords : l.InWords := by
  have hwhole : l.tensorSize < addressSpace := l.tensorSize_lt
  have hrow : l.rowSize < addressSpace := Nat.lt_of_le_of_lt l.rowSize_le hwhole
  have hrows : l.rows < addressSpace := Nat.lt_of_le_of_lt l.rows_le_tensorSize hwhole
  have hstart : ∀ i < l.rows, (UInt64.ofNat i * UInt64.ofNat l.rowSize).toNat = i * l.rowSize := by
    intro i hi
    refine toNat_mul_words (Nat.lt_trans hi hrows) hrow (Nat.lt_of_le_of_lt ?_ hwhole)
    exact Nat.mul_le_mul_right l.rowSize (Nat.le_of_lt hi)
  refine ⟨?_, toNat_mul_words hrows hrow hwhole, hstart, fun i hi k hk => ?_, fun i hi k hk => ?_⟩
  · have hclasses : l.classes < addressSpace :=
      Nat.lt_of_le_of_lt (Nat.le_add_left l.classes boxFields) hrow
    rw [UInt64.toNat_add, toNat_word hclasses, toNat_word (by decide)]
    exact Nat.mod_eq_of_lt hrow
  · have hnext := l.row_le hi
    rw [Nat.succ_mul] at hnext
    rw [UInt64.toNat_add, hstart i hi, toNat_word (Nat.lt_of_le_of_lt hk hrow)]
    exact Nat.mod_eq_of_lt (Nat.lt_of_le_of_lt (by omega) hwhole)
  · refine ⟨?_, l.row_le hi⟩
    rw [Nat.succ_mul]
    exact Nat.add_lt_add_left hk _

end Layout

/-! ## Rows and their bytes -/

/-- Two tensors with the same bytes from one place up to another. -/
def AgreeOn (start stop : Nat) (bytes bytes' : ByteArray) : Prop :=
  ∀ k, start ≤ k → k < stop → bytes[k]? = bytes'[k]?

/-- Less is the same where more is. -/
theorem AgreeOn.mono {start stop start' stop' : Nat} {bytes bytes' : ByteArray}
    (h : AgreeOn start stop bytes bytes') (hstart : start ≤ start') (hstop : stop' ≤ stop) :
    AgreeOn start' stop' bytes bytes' :=
  fun k hk hk' => h k (Nat.le_trans hstart hk) (Nat.lt_of_lt_of_le hk' hstop)

namespace View

variable {l : Layout} {bytes bytes' : ByteArray} (enough : l.tensorSize ≤ bytes.size)
  (enough' : l.tensorSize ≤ bytes'.size)

/-- A tensor is accepted just if it has enough bytes. -/
theorem exists_ofBytes_iff (l : Layout) (bytes : ByteArray) :
    (∃ v, View.ofBytes l bytes = .ok v) ↔ l.tensorSize ≤ bytes.size := by
  unfold View.ofBytes
  by_cases h : l.tensorSize ≤ bytes.size
  · simp [h]
  · simp [h]

/-- A field of a row is decoded from a byte of the row. -/
theorem field_congr {i : Fin l.rows}
    (h : AgreeOn (i.val * l.rowSize) ((i.val + 1) * l.rowSize) bytes bytes')
    (k : Fin l.rowSize) :
    (View.mk l bytes enough).field i k = (View.mk l bytes' enough').field i k := by
  have hplace := (View.mk l bytes enough).offset_lt i k
  have hplace' := (View.mk l bytes' enough').offset_lt i k
  have hbyte : bytes[i.val * l.rowSize + k.val]? = bytes'[i.val * l.rowSize + k.val]? := by
    apply h _ (Nat.le_add_right _ _)
    exact (l.inWords.within i i.isLt k k.isLt).1
  rw [getElem?_pos bytes _ hplace, getElem?_pos bytes' _ hplace'] at hbyte
  exact congrArg l.quantization.dequantize (Option.some.inj hbyte)

/-- Tensors that agree on the bytes of a row have the same box, the same objectness and the same best
class in it. -/
theorem row_congr {i : Fin l.rows}
    (h : AgreeOn (i.val * l.rowSize) ((i.val + 1) * l.rowSize) bytes bytes') :
    (View.mk l bytes enough).box i = (View.mk l bytes' enough').box i ∧
      (View.mk l bytes enough).objectness i = (View.mk l bytes' enough').objectness i ∧
      (View.mk l bytes enough).best i = (View.mk l bytes' enough').best i := by
  have hfield := field_congr enough enough' h
  refine ⟨?_, hfield _, ?_⟩
  · simp only [box, boxField, hfield]
  · simp only [best, scores, hfield]

end View

/-- How the rows of a layout are read: from enough bytes, by their index, each from its own bytes. -/
structure Layout.ReadsByRow (l : Layout) : Prop where
  accepts : ∀ bytes, (∃ v, View.ofBytes l bytes = .ok v) ↔ l.tensorSize ≤ bytes.size
  hasRow : ∀ bytes v, View.ofBytes l bytes = .ok v →
    ∀ i, (∃ row, v.rowIndex i = .ok row ∧ row.val = i) ↔ i < l.rows
  noRow : ∀ bytes v, View.ofBytes l bytes = .ok v →
    ∀ i, v.rowIndex i = .error (.noSuchRow i l.rows) ↔ l.rows ≤ i
  ownBytes : ∀ bytes bytes' enough enough' (i : Fin l.rows),
    AgreeOn (i.val * l.rowSize) ((i.val + 1) * l.rowSize) bytes bytes' →
    (View.mk l bytes enough).box i = (View.mk l bytes' enough').box i ∧
    (View.mk l bytes enough).objectness i = (View.mk l bytes' enough').objectness i ∧
    (View.mk l bytes enough).best i = (View.mk l bytes' enough').best i

namespace View

/-- A view is over the tensor and the layout that it was made from. -/
theorem eq_of_ofBytes {l : Layout} {bytes : ByteArray} {v : View}
    (h : View.ofBytes l bytes = .ok v) : v.layout = l ∧ v.bytes = bytes := by
  unfold View.ofBytes at h
  split_ifs at h
  cases h
  exact ⟨rfl, rfl⟩

theorem exists_rowIndex_iff (v : View) (i : Nat) :
    (∃ row, v.rowIndex i = .ok row ∧ row.val = i) ↔ i < v.rows := by
  unfold rowIndex
  constructor
  · rintro ⟨row, -, rfl⟩
    exact row.isLt
  · intro h
    exact ⟨⟨i, h⟩, dif_pos h, rfl⟩

theorem rowIndex_eq_error_iff (v : View) (i : Nat) :
    v.rowIndex i = .error (.noSuchRow i v.rows) ↔ v.rows ≤ i := by
  unfold rowIndex
  split_ifs with h
  · simp [h]
  · simpa using h

theorem readsByRow (l : Layout) : l.ReadsByRow := by
  refine ⟨exists_ofBytes_iff l, fun bytes v hv i => ?_, fun bytes v hv i => ?_,
    fun bytes bytes' enough enough' i agree => row_congr enough enough' agree⟩
  · obtain ⟨rfl, -⟩ := eq_of_ofBytes hv
    exact v.exists_rowIndex_iff i
  · obtain ⟨rfl, -⟩ := eq_of_ofBytes hv
    exact v.rowIndex_eq_error_iff i

variable {l : Layout} {bytes bytes' : ByteArray} (enough : l.tensorSize ≤ bytes.size)
  (enough' : l.tensorSize ≤ bytes'.size)

/-- Tensors that agree on all their rows have the same detections. -/
theorem detections_congr (h : AgreeOn 0 l.tensorSize bytes bytes')
    (thresholds : Settings.Thresholds) (tie : Detect.TieBreak) :
    (View.mk l bytes enough).detections thresholds tie =
      (View.mk l bytes' enough').detections thresholds tie := by
  have hrow (i : Fin l.rows) := row_congr enough enough' (h.mono (Nat.zero_le _) (l.row_le i.isLt))
  have hbox : (View.mk l bytes enough).box = (View.mk l bytes' enough').box :=
    funext fun i => (hrow i).1
  have hobjectness : (View.mk l bytes enough).objectness = (View.mk l bytes' enough').objectness :=
    funext fun i => (hrow i).2.1
  have hbest : (View.mk l bytes enough).best = (View.mk l bytes' enough').best :=
    funext fun i => (hrow i).2.2
  have hdetection : (View.mk l bytes enough).detection = (View.mk l bytes' enough').detection := by
    unfold detection
    rw [hbox, hobjectness, hbest]
    rfl
  have hwinners : (View.mk l bytes enough).winners thresholds tie =
      (View.mk l bytes' enough').winners thresholds tie := by
    unfold winners clash outranks candidates
    rw [hbox, hobjectness]
    rfl
  unfold detections
  rw [hdetection, hwinners]
  rfl

end View

end FrameDetect.Tensor
