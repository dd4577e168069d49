import FrameDetect.Proofs.Detect.Greedy
import FrameDetect.Proofs.Tensor.Decoding

/-!
# Raising the confidence threshold

A row below the threshold never wins over one that is not, and always loses to it.  Rows that a higher
threshold rejects therefore make no difference to the others, neither as the first of two overlapping
rows nor as the second: it is the same to filter before suppression and to filter after it.
-/

namespace FrameDetect.Detect

open FrameDetect.Number (lt_trans_le not_lt_iff not_lt_of_lt not_isNaN_of_le)
open FrameDetect.Tensor (Layout Manifest View oneRow oneRowView)

/-- The rows that survive the confidence filter and then suppression. -/
def filterThenSuppress (rows : Array Row) (confidence threshold : Float32) (tie : TieBreak)
    (mask : Mask) : Except Fault (List Nat) := do
  let mask ← filterConfidence rows confidence mask
  let (_, mask) ← suppress rows threshold tie mask
  return mask.survivors

/-- What survives are the winners of the contest between the rows that are not below the threshold. -/
theorem filterThenSuppress_eq (rows : Array Row) (confidence threshold : Float32) (tie : TieBreak)
    {mask : Mask} (h : rows.size = mask.size) :
    filterThenSuppress rows confidence threshold tie mask = .ok
      ((contest (clashes threshold) (defeats tie) (candidates rows confidence)).map Prod.snd) := by
  obtain ⟨filtered, hfilter, hsize, hkept⟩ := filterConfidence_eq confidence h
  have hfit : rows.size = filtered.size := h.trans hsize.symm
  obtain ⟨count, suppressed, hsuppress, hsize', hleft⟩ := suppress_eq_contest threshold tie hfit
  have hfit' : rows.size = suppressed.size := hfit.trans hsize'.symm
  simp only [filterThenSuppress, hfilter, bind, Except.bind, hsuppress, pure, Except.pure]
  rw [suppressed.survivors_eq hfit', hleft, hkept]

/-! ## Rows on both sides of a threshold -/

section
variable {bound : Float32} {x y : Row}

/-- A row below the threshold does not win over one that is not. -/
theorem secondWins_of_below (tie : TieBreak) (hb : bound.isNaN = false)
    (hx : x.objectness.isNaN = false) (above : ¬x.objectness < bound) (below : y.objectness < bound) :
    secondWins tie x y = false := by
  have hlt : y.objectness < x.objectness := lt_trans_le below ((not_lt_iff hx hb).1 above)
  rw [secondWins, if_pos hlt]

/-- A row that is not below the threshold wins over one that is. -/
theorem secondWins_of_above (tie : TieBreak) (hb : bound.isNaN = false)
    (hy : y.objectness.isNaN = false) (below : x.objectness < bound) (above : ¬y.objectness < bound) :
    secondWins tie x y = true := by
  have hlt : x.objectness < y.objectness := lt_trans_le below ((not_lt_iff hy hb).1 above)
  rw [secondWins, if_neg (not_lt_of_lt hlt), if_pos hlt]

end

/-- An entry of the numbered list of rows is the row of its index. -/
theorem getElem?_of_mem_zipIdx {rows : Array Row} {entry : Row × Nat}
    (h : entry ∈ rows.toList.zipIdx 0) : rows[entry.2]? = some entry.1 := by
  rw [← Array.getElem?_toList]
  exact List.mem_zipIdx_iff_getElem?.1 h

/-- The candidates at a higher threshold are among those at a lower one. -/
theorem candidates_of_le (rows : Array Row) {low high : Float32} (h : low ≤ high) :
    candidates rows high =
      (candidates rows low).filter fun entry => !decide (entry.1.objectness < high) := by
  rw [candidates, candidates, List.filter_filter]
  apply List.filter_congr
  intro entry _
  by_cases hlow : entry.1.objectness < low
  · have hhigh : entry.1.objectness < high := lt_trans_le hlow h
    simp [hhigh]
  · simp [hlow]

/-- The rows at or above a threshold among the winners of a contest are the winners of the contest
between these rows. -/
theorem filter_contest_candidates {rows : Array Row}
    (numbers : ∀ row ∈ rows, row.objectness.isNaN = false) {low high : Float32} (h : low ≤ high)
    (threshold : Float32) (tie : TieBreak) :
    (contest (clashes threshold) (defeats tie) (candidates rows low)).filter
        (fun entry => !decide (entry.1.objectness < high)) =
      contest (clashes threshold) (defeats tie) (candidates rows high) := by
  have hb : high.isNaN = false := (not_isNaN_of_le h).2
  have number : ∀ entry ∈ candidates rows low, entry.1.objectness.isNaN = false := by
    intro entry hentry
    have hrow := getElem?_of_mem_zipIdx (List.mem_filter.1 hentry).1
    exact numbers entry.1 (Array.mem_of_getElem? hrow)
  rw [candidates_of_le rows h]
  apply filter_contest
  · intro x hx y _ above below
    simp only [Bool.not_eq_true', decide_eq_false_iff_not, Bool.not_eq_false', decide_eq_true_eq]
      at above below
    exact secondWins_of_below tie hb (number x hx) above below
  · intro x _ y hy below above
    simp only [Bool.not_eq_true', decide_eq_false_iff_not, Bool.not_eq_false', decide_eq_true_eq]
      at above below
    exact secondWins_of_above tie hb (number y hy) below above

/-- Filtering at a higher threshold before suppression leaves the rows at or above that threshold of
those that suppression leaves after filtering at a lower one, so that raising the threshold adds no row.
Objectness is always a number where rows come from a tensor. -/
theorem filter_commutes_with_suppress :
    (∀ (m : Manifest) (v : View), Layout.ofManifest m = .ok v.layout →
      ∀ i, (v.row i).objectness.isNaN = false) ∧
    ∀ (rows : Array Row) (low high threshold : Float32) (tie : TieBreak) (mask mask' : Mask),
      (∀ row ∈ rows, row.objectness.isNaN = false) → low ≤ high →
      rows.size = mask.size → rows.size = mask'.size →
      ∃ atLow atHigh,
        filterThenSuppress rows low threshold tie mask = .ok atLow ∧
        filterThenSuppress rows high threshold tie mask' = .ok atHigh ∧
        atHigh = atLow.filter (fun i => rows[i]?.any fun row => high ≤ row.objectness) ∧
        ∀ i ∈ atHigh, i ∈ atLow := by
  refine ⟨fun m v h i => View.isNaN_objectness (Layout.usable_of_ofManifest h) i, ?_⟩
  intro rows low high threshold tie mask mask' numbers hle hmask hmask'
  have hb : high.isNaN = false := (not_isNaN_of_le hle).2
  let winners := contest (clashes threshold) (defeats tie) (candidates rows low)
  have hfilter : (contest (clashes threshold) (defeats tie) (candidates rows high)).map Prod.snd =
      (winners.map Prod.snd).filter fun i => rows[i]?.any fun row => high ≤ row.objectness := by
    rw [← filter_contest_candidates numbers hle, List.filter_map]
    congr 1
    apply List.filter_congr
    intro entry hentry
    have hmem := (List.mem_filter.1 ((contest_sublist _).mem hentry)).1
    have hrow := getElem?_of_mem_zipIdx hmem
    have hnum := numbers entry.1 (Array.mem_of_getElem? hrow)
    simp only [Function.comp_apply, hrow, Option.any_some, ← not_lt_iff hnum hb, decide_not]
  refine ⟨_, _, filterThenSuppress_eq rows low threshold tie hmask,
    filterThenSuppress_eq rows high threshold tie hmask', hfilter, ?_⟩
  intro i hi
  exact (List.mem_filter.1 (hfilter ▸ hi)).1

/-- Three rows, of which the second overlaps both others and has the greatest objectness. -/
def threeRows : Array Row :=
  #[⟨⟨0.5, 0.5, 0.4, 1⟩, 0.5⟩, ⟨⟨0.4, 0.5, 0.4, 1⟩, 0.9⟩, ⟨⟨0.65, 0.5, 0.4, 1⟩, 0.3⟩]

theorem filter_commutes_with_suppress_threeRows :
    Layout.ofManifest oneRow = .ok oneRowView.layout ∧
      (∀ i, (oneRowView.row i).objectness.isNaN = false) ∧
      (∀ row ∈ threeRows, row.objectness.isNaN = false) ∧ (0.2 : Float32) ≤ 0.6 ∧
      ∃ atLow atHigh,
        filterThenSuppress threeRows 0.2 0.4 .later (.clear 3) = .ok atLow ∧
        filterThenSuppress threeRows 0.6 0.4 .later (.clear 3) = .ok atHigh ∧
        atHigh = atLow.filter (fun i => threeRows[i]?.any fun row => 0.6 ≤ row.objectness) ∧
        ∀ i ∈ atHigh, i ∈ atLow :=
  ⟨rfl, filter_commutes_with_suppress.1 oneRow oneRowView rfl, by decide, by decide,
    filter_commutes_with_suppress.2 threeRows 0.2 0.6 0.4 .later (.clear 3) (.clear 3) (by decide)
      (by decide) rfl rfl⟩

end FrameDetect.Detect
