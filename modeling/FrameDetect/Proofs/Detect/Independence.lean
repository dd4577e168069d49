import FrameDetect.Proofs.Detect.RaisedConfidence
import FrameDetect.Proofs.Number.SignedZero

/-!
# Independence of the rows that suppression keeps

Two boxes overlap alike in both orders, so that it makes no difference that suppression compares a row
only with those behind it.  A row that is rejected is compared no further, but the pairs that are left out
this way have lost one of their rows.  No two rows that are kept overlap by more than the threshold, and
where this holds suppression finds nothing to reject.
-/

namespace FrameDetect.Detect

open FrameDetect.Number (Alike add_comm_single greater_comm le_trans_le lesser_comm)

/-! ## The order of two boxes -/

theorem sharedLength_comm (low₁ high₁ low₂ high₂ : Float32) :
    Alike (sharedLength low₁ high₁ low₂ high₂) (sharedLength low₂ high₂ low₁ high₁) :=
  ((lesser_comm high₁ high₂).sub (greater_comm low₁ low₂)).greater (.same 0)

theorem sharedArea_comm (a b : Box) : Alike (sharedArea a b) (sharedArea b a) :=
  (sharedLength_comm ..).mul (sharedLength_comm ..)

theorem overlap_comm (a b : Box) : Alike (overlap a b) (overlap b a) := by
  have shared := sharedArea_comm a b
  have covered : Alike (a.area + b.area - sharedArea a b) (b.area + a.area - sharedArea b a) := by
    rw [add_comm_single b.area a.area]
    exact (Alike.same (a.area + b.area)).sub shared
  simp only [overlap, covered.le_iff (.same 0)]
  split_ifs with h
  · exact .same 0
  · have h' : ¬a.area + b.area - sharedArea a b ≤ 0 := mt (covered.le_iff (.same 0)).1 h
    exact (shared.div covered h').lesser (.same 1)

theorem conflicts_comm (threshold : Float32) (first second : Row) :
    conflicts threshold first second = conflicts threshold second first := by
  simp only [conflicts, (overlap_comm first.box second.box).le_iff (.same threshold)]

/-- Rows that do not overlap by more than a threshold do not overlap by more than a larger one. -/
theorem not_conflicts_mono {threshold threshold' : Float32} {first second : Row}
    (h : threshold' = threshold ∨ threshold ≤ threshold')
    (apart : conflicts threshold first second = false) : conflicts threshold' first second = false := by
  rcases h with rfl | hle
  · exact apart
  · simp only [conflicts, Bool.not_eq_false', decide_eq_true_eq] at apart ⊢
    exact le_trans_le apart hle

/-! ## Nothing to reject -/

section
variable {threshold : Float32} (tie : TieBreak) {mask : Mask}

theorem sweep_of_independent {i j : Nat} {first : Row} {rest : List Row}
    (h : ∀ entry ∈ mask.kept j rest, conflicts threshold first entry.1 = false) :
    sweep threshold tie i first j rest mask = (0, mask) := by
  induction rest generalizing j with
  | nil => rfl
  | cons second rest ih =>
    rw [Mask.kept_cons] at h
    cases hk : mask.keeps j with
    | false =>
      rw [sweep_of_apart rest (by rw [hk, Bool.false_and])]
      rw [if_neg (by simp [hk])] at h
      exact ih h
    | true =>
      rw [if_pos hk] at h
      obtain ⟨apart, others⟩ := List.forall_mem_cons.1 h
      rw [sweep_of_apart rest (by rw [apart, Bool.and_false])]
      exact ih others

/-- Suppression rejects nothing where no two kept rows clash. -/
theorem suppressFrom_of_independent {i : Nat} {rows : List Row}
    (h : (mask.kept i rows).Pairwise fun x y => clashes threshold x y = false) :
    suppressFrom threshold tie i rows mask = (0, mask) := by
  induction rows generalizing i with
  | nil => rfl
  | cons first rest ih =>
    rw [Mask.kept_cons] at h
    cases hk : mask.keeps i with
    | false =>
      rw [if_neg (by simp [hk])] at h
      simp [suppressFrom, hk, ih h]
    | true =>
      rw [if_pos hk] at h
      obtain ⟨apart, others⟩ := List.pairwise_cons.1 h
      have hsweep : sweep threshold tie i first (i + 1) rest mask = (0, mask) :=
        sweep_of_independent tie apart
      simp [suppressFrom, hk, hsweep, ih others]

end

theorem mem_kept_iff {mask : Mask} {rows : Array Row} {row : Row} {i : Nat} :
    (row, i) ∈ mask.kept 0 rows.toList ↔ rows[i]? = some row ∧ mask.keeps i = true := by
  rw [Mask.kept, List.mem_filter, List.mem_zipIdx_iff_getElem?, Array.getElem?_toList]

/-- Suppression leaves no two rows that overlap by more than the threshold, in whichever order they are
compared.  With the same or a larger threshold, a second pass therefore rejects nothing and leaves the
mask as it is, whichever of two rows with the same objectness it would reject. -/
theorem suppress_independent (rows : Array Row) (mask : Mask) (threshold : Float32) (tie : TieBreak)
    (h : rows.size = mask.size) :
    ∃ count mask', suppress rows threshold tie mask = .ok (count, mask') ∧ mask'.size = mask.size ∧
      (∀ i j a b, i ≠ j → rows[i]? = some a → rows[j]? = some b →
        mask'.keeps i = true → mask'.keeps j = true → overlap a.box b.box ≤ threshold) ∧
      ∀ threshold' tie', threshold' = threshold ∨ threshold ≤ threshold' →
        suppress rows threshold' tie' mask' = .ok (0, mask') := by
  obtain ⟨count, mask', hsuppress, hsize, hkept⟩ := suppress_eq_contest threshold tie h
  have independent : (mask'.kept 0 rows.toList).Pairwise fun x y => clashes threshold x y = false := by
    rw [hkept]
    exact pairwise_contest _
  refine ⟨count, mask', hsuppress, hsize, ?_, ?_⟩
  · intro i j a b hne ha hb hi hj
    -- the pass has seen each kept pair in one order, and the other order is as good
    have : Std.Symm fun x y : Row × Nat => clashes threshold x y = false :=
      ⟨fun x y hxy => (conflicts_comm threshold y.1 x.1).trans hxy⟩
    have distinct : (a, i) ≠ (b, j) := fun same => hne (congrArg Prod.snd same)
    have apart : clashes threshold (a, i) (b, j) = false :=
      independent.forall (mem_kept_iff.2 ⟨ha, hi⟩) (mem_kept_iff.2 ⟨hb, hj⟩) distinct
    simpa [clashes, conflicts] using apart
  · intro threshold' tie' hle
    have wider : (mask'.kept 0 rows.toList).Pairwise fun x y => clashes threshold' x y = false :=
      independent.imp (not_conflicts_mono hle)
    rw [suppress, if_pos (h.trans hsize.symm), suppressFrom_of_independent tie' wider]

theorem suppress_independent_threeRows :
    threeRows.size = (Mask.clear 3).size ∧
      ∃ count mask', suppress threeRows 0.4 .later (.clear 3) = .ok (count, mask') ∧
        mask'.size = (Mask.clear 3).size ∧
        (∀ i j a b, i ≠ j → threeRows[i]? = some a → threeRows[j]? = some b →
          mask'.keeps i = true → mask'.keeps j = true → overlap a.box b.box ≤ 0.4) ∧
        ∀ threshold' tie', threshold' = 0.4 ∨ 0.4 ≤ threshold' →
          suppress threeRows threshold' tie' mask' = .ok (0, mask') :=
  ⟨rfl, suppress_independent threeRows (.clear 3) 0.4 .later rfl⟩

end FrameDetect.Detect
