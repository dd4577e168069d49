import FrameDetect.Proofs.Cycle.Reachable
import FrameDetect.Proofs.Tensor.Locality

/-!
# What cycles decode

Each row of a tensor is decoded from its own bytes, whose places are computed without overflow.  What is
published of a tensor therefore depends on the bytes of its rows, and not on any that come after them.
-/

namespace FrameDetect.Cycle

open FrameDetect.Tensor (AgreeOn Layout Manifest View fourRows fourRowsView)

/-- A detector looks at the rows of its layout only. -/
theorem Detector.Fitted.detect_congr_bytes {d : Detector} (h : d.Fitted) {bytes bytes' : ByteArray}
    (enough : d.layout.tensorSize ≤ bytes.size) (enough' : d.layout.tensorSize ≤ bytes'.size)
    (agree : AgreeOn 0 d.layout.tensorSize bytes bytes') :
    (d.detect bytes).1 = (d.detect bytes').1 := by
  obtain ⟨after, hdetect, -⟩ := Detector.detect_view h (v := ⟨d.layout, bytes, enough⟩) rfl
  obtain ⟨after', hdetect', -⟩ := Detector.detect_view h (v := ⟨d.layout, bytes', enough'⟩) rfl
  rw [hdetect, hdetect']
  exact congrArg Except.ok (View.detections_congr enough enough' agree d.thresholds d.tieBreak)

/-- A manifest is accepted just if its numbers are usable and its rows fit the address space.  Under an
accepted one the places of fields are computed in words without overflow, a tensor is accepted just if it
has enough bytes, its rows are those below their number, and each depends on its own bytes.  Bytes after
the last row never change what a detector finds. -/
theorem decoding_reads_own_rows :
    (∀ m : Manifest, (∃ l, Layout.ofManifest m = .ok l) ↔ m.Describes) ∧
    (∀ (m : Manifest) (l : Layout), Layout.ofManifest m = .ok l →
      l.Matches m ∧ l.InWords ∧ l.ReadsByRow) ∧
    ∀ d : Detector, d.Reachable → ∀ bytes bytes' : ByteArray,
      d.layout.tensorSize ≤ bytes.size → d.layout.tensorSize ≤ bytes'.size →
      AgreeOn 0 d.layout.tensorSize bytes bytes' → (d.detect bytes).1 = (d.detect bytes').1 := by
  refine ⟨Layout.exists_ofManifest_iff, fun m l h => ?_, fun d h bytes bytes' enough enough' agree => ?_⟩
  · exact ⟨(Layout.matches_of_ofManifest h).2, l.inWords, View.readsByRow l⟩
  · exact h.fitted.detect_congr_bytes enough enough' agree

/-- A tensor of four rows of which the second one is that of `fourRowsView`. -/
def otherRows : View :=
  ⟨fourRowsView.layout,
    ⟨#[1, 2, 3, 4, 5, 6, 66, 64, 32, 32, 120, 110, 7, 8, 9, 10, 11, 12, 13, 14, 15, 16, 17, 18]⟩, by decide⟩

/-- The tensor of four rows, with a byte behind it. -/
def trailing : ByteArray := ⟨fourRowsView.bytes.data.push 255⟩

/-- The second row is read from its own bytes, and the byte behind all rows is not read. -/
theorem decoding_reads_own_rows_fourRows :
    (∃ l, Layout.ofManifest fourRows = .ok l) ∧
    Layout.ofManifest fourRows = .ok fourRowsView.layout ∧ fourRowsView.layout.InWords ∧
    otherRows.bytes[0]? ≠ fourRowsView.bytes[0]? ∧ AgreeOn 6 12 otherRows.bytes fourRowsView.bytes ∧
    otherRows.box ⟨1, by decide⟩ = fourRowsView.box ⟨1, by decide⟩ ∧
    otherRows.objectness ⟨1, by decide⟩ = fourRowsView.objectness ⟨1, by decide⟩ ∧
    Detector.fourRows.Reachable ∧ AgreeOn 0 24 fourRowsView.bytes trailing ∧
    (Detector.fourRows.detect fourRowsView.bytes).1 = (Detector.fourRows.detect trailing).1 := by
  obtain ⟨hmanifest, hlayout, hdetect⟩ := decoding_reads_own_rows
  obtain ⟨-, hwords, hrows⟩ := hlayout fourRows fourRowsView.layout rfl
  have describes : fourRows.Describes :=
    ⟨by decide, by decide, by decide, by decide, by decide, by decide, by decide, by decide⟩
  have second : AgreeOn 6 12 otherRows.bytes fourRowsView.bytes := by
    intro k hstart hstop
    interval_cases k <;> rfl
  have agree : AgreeOn 0 24 fourRowsView.bytes trailing := by
    intro k _ hk
    interval_cases k <;> rfl
  obtain ⟨hbox, hobjectness, -⟩ :=
    hrows.ownBytes otherRows.bytes fourRowsView.bytes otherRows.enough fourRowsView.enough ⟨1, by decide⟩ second
  exact ⟨(hmanifest fourRows).2 describes, rfl, hwords, by decide, second, hbox, hobjectness,
    Detector.reachable_fourRows, agree,
    hdetect .fourRows Detector.reachable_fourRows fourRowsView.bytes trailing (by decide) (by decide) agree⟩

end FrameDetect.Cycle
