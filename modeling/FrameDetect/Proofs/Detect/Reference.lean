import FrameDetect.Detect.Detection
import FrameDetect.Proofs.Detect.Greedy
import FrameDetect.Proofs.Tensor.Decoding
import FrameDetect.Settings.Thresholds
import Mathlib.Data.List.FinRange

/-!
# Detections without a mask

The detections of a tensor as a function of lists: the rows that are not below the confidence threshold
contend, two of them clash if they overlap by more than the threshold, and the winners are resolved.  The
pipeline over an array and a mask gives just these detections.
-/

namespace FrameDetect.Detect

open FrameDetect.Number (lesser le_iff_rank lt_iff_rank beq_iff_rank)

/-! ## Comparisons as they are meant -/

/-- The lesser of anything and a number is a number. -/
theorem isNaN_lesser {a b : Float32} (h : b.isNaN = false) : (lesser a b).isNaN = false := by
  unfold lesser
  split_ifs with ha hb
  · exact h
  · exact absurd (hb.symm.trans h) (by decide)
  · exact h
  · exact Bool.eq_false_iff.2 ha

/-- An overlap is always a number, even that of boxes without end. -/
theorem isNaN_overlap (a b : Box) : (overlap a b).isNaN = false := by
  unfold overlap
  dsimp only
  split
  · rfl
  · exact isNaN_lesser rfl

/-- Rows clash if their overlap is greater than the threshold. -/
theorem conflicts_eq {threshold : Float32} (h : threshold.isNaN = false) (first second : Row) :
    conflicts threshold first second = decide (threshold < overlap first.box second.box) := by
  have hn := isNaN_overlap first.box second.box
  rw [conflicts, ← decide_not, decide_eq_decide, le_iff_rank, lt_iff_rank]
  simp only [h, hn, true_and, not_le]

/-- The second row wins with a greater objectness, and with an equal one if the earlier row loses
ties. -/
theorem secondWins_eq {first second : Row} (tie : TieBreak) (h₁ : first.objectness.isNaN = false)
    (h₂ : second.objectness.isNaN = false) :
    secondWins tie first second =
      (decide (first.objectness < second.objectness) ||
        (first.objectness == second.objectness && decide (tie = .earlier))) := by
  rw [secondWins, Bool.eq_iff_iff]
  simp only [Bool.or_eq_true, Bool.and_eq_true, beq_iff_rank, decide_eq_true_eq, lt_iff_rank, h₁, h₂,
    true_and]
  rcases lt_trichotomy (Number.rank first.objectness) (Number.rank second.objectness) with h | h | h
  · simp [h, h.not_gt]
  · simp [h]
  · simp [h, h.not_gt, h.ne']

end FrameDetect.Detect

namespace FrameDetect.Tensor.View

open FrameDetect.Detect (Detection Fault TieBreak contest overlap resolveRow)
open FrameDetect.Settings (Thresholds)

variable (v : View)

/-- The rows that are not below a threshold, in ascending order. -/
def candidates (confidence : Float32) : List (Fin v.rows) :=
  (List.finRange v.rows).filter fun i => !decide (v.objectness i < confidence)

/-- Whether two rows overlap by more than a threshold. -/
def clash (threshold : Float32) (i j : Fin v.rows) : Bool :=
  decide (threshold < overlap (v.box i) (v.box j))

/-- Whether row `j` wins over row `i` where they clash. -/
def outranks (tie : TieBreak) (i j : Fin v.rows) : Bool :=
  decide (v.objectness i < v.objectness j) ||
    (v.objectness i == v.objectness j && decide (tie = .earlier))

/-- The rows that are left of the candidates. -/
def winners (thresholds : Thresholds) (tie : TieBreak) : List (Fin v.rows) :=
  contest (v.clash thresholds.overlap) (v.outranks tie) (v.candidates thresholds.confidence)

/-- A row with its best class and its corners in the frame. -/
def detection (i : Fin v.rows) : Detection :=
  ⟨i, v.best i, v.objectness i, (v.box i).corners⟩

/-- What is published of a tensor. -/
def detections (thresholds : Thresholds) (tie : TieBreak) : List Detection :=
  (v.winners thresholds tie).map v.detection

theorem winners_sublist (thresholds : Thresholds) (tie : TieBreak) :
    (v.winners thresholds tie).Sublist (List.finRange v.rows) :=
  (Detect.contest_sublist _).trans List.filter_sublist

/-- The detections come in the order of their rows. -/
theorem detections_ascending (thresholds : Thresholds) (tie : TieBreak) :
    (v.detections thresholds tie).Pairwise fun x y => x.index < y.index :=
  List.pairwise_map.2 ((List.pairwise_lt_finRange v.rows).sublist (v.winners_sublist thresholds tie))

/-- Detections can be counted in a word, as there are no more of them than rows. -/
theorem length_detections_lt (thresholds : Thresholds) (tie : TieBreak) :
    (v.detections thresholds tie).length < 2 ^ 64 := by
  have hrows : (v.detections thresholds tie).length ≤ v.rows := by
    rw [detections, List.length_map]
    exact (v.winners_sublist thresholds tie).length_le.trans_eq List.length_finRange
  exact (hrows.trans v.layout.rows_le_tensorSize).trans_lt v.layout.tensorSize_lt

/-! ## The pipeline -/

/-- A row with its number. -/
def entry (i : Fin v.rows) : Detect.Row × Nat := (v.row i, i)

/-- The decoded rows, numbered. -/
theorem zipIdx_row : (Array.ofFn v.row).toList.zipIdx 0 = (List.finRange v.rows).map v.entry := by
  apply List.ext_getElem
  · simp
  · intro i _ _
    simp [entry]

/-- The candidates in the decoded rows are the candidates in the tensor. -/
theorem candidates_row (confidence : Float32) :
    Detect.candidates (Array.ofFn v.row) confidence = (v.candidates confidence).map v.entry := by
  rw [Detect.candidates, zipIdx_row, List.filter_map]
  rfl

/-- The contest between decoded rows is the contest between rows of the tensor. -/
theorem contest_row {thresholds : Thresholds} (ht : thresholds.overlap.isNaN = false)
    (hq : v.layout.quantization.Usable) (tie : TieBreak) :
    contest (Detect.clashes thresholds.overlap) (Detect.defeats tie)
        (Detect.candidates (Array.ofFn v.row) thresholds.confidence) =
      (v.winners thresholds tie).map v.entry := by
  rw [candidates_row, Detect.contest_map, winners]
  congr 1
  apply Detect.contest_congr
  · intro i _ j _
    exact Detect.conflicts_eq ht (v.row i) (v.row j)
  · intro i _ j _
    exact Detect.secondWins_eq tie (v.isNaN_objectness hq i) (v.isNaN_objectness hq j)

/-- The rows of the detections depend on the candidates alone: rows that the filter rejects have no
influence on which other rows are left. -/
theorem index_detections_congr {v v' : View} (hv : v.layout.quantization.Usable)
    (hv' : v'.layout.quantization.Usable) {thresholds : Thresholds}
    (ht : thresholds.overlap.isNaN = false) (tie : TieBreak)
    (same : (v.candidates thresholds.confidence).map v.entry =
      (v'.candidates thresholds.confidence).map v'.entry) :
    (v.detections thresholds tie).map (·.index) = (v'.detections thresholds tie).map (·.index) := by
  have hindex : ∀ u : View, (u.detections thresholds tie).map (·.index) =
      ((u.winners thresholds tie).map u.entry).map Prod.snd := by
    intro u
    rw [detections, List.map_map, List.map_map]
    rfl
  rw [hindex, hindex, ← v.contest_row ht hv, ← v'.contest_row ht hv', candidates_row, candidates_row,
    same]

/-- Every row of the tensor resolves. -/
theorem resolveRow_eq (i : Fin v.rows) :
    resolveRow v (Array.ofFn v.row) i = .ok (v.detection i) := by
  have hrow : (Array.ofFn v.row)[i.val]? = some (v.row i) := by simp
  have hindex : v.rowIndex i = .ok i := dif_pos i.isLt
  rw [resolveRow, hrow, hindex]
  rfl

/-- Rows of the tensor resolve one by one. -/
theorem mapM_resolveRow (rows : List (Fin v.rows)) :
    (rows.map Fin.val).mapM (resolveRow v (Array.ofFn v.row)) = .ok (rows.map v.detection) := by
  induction rows with
  | nil => rfl
  | cons i rest ih =>
    rw [List.map_cons, List.mapM_cons, resolveRow_eq, ih]
    rfl

end FrameDetect.Tensor.View
