import FrameDetect.Detect.Confidence
import FrameDetect.Detect.Suppression
import FrameDetect.Proofs.Detect.Contest
import FrameDetect.Proofs.Detect.Kept

/-!
# Suppression as a contest

Suppression goes through indices and marks a mask.  What the mask keeps in the end are the winners of a
contest between the rows that it kept in the beginning: each step on the mask is a step of the contest,
and marks only rows from its own index on.
-/

namespace FrameDetect.Detect

variable (threshold : Float32) (tie : TieBreak)

/-- Whether two rows, each with its index, overlap by more than the threshold. -/
def clashes (first second : Row × Nat) : Bool := conflicts threshold first.1 second.1

/-- Whether the second of two rows, each with its index, wins over the first. -/
def defeats (first second : Row × Nat) : Bool := secondWins tie first.1 second.1

/-! ## One row against those behind it -/

section
variable {threshold} {tie} {i j : Nat} {first second : Row} (rest : List Row) {mask : Mask}

theorem sweep_of_apart (h : (mask.keeps j && conflicts threshold first second) = false) :
    sweep threshold tie i first j (second :: rest) mask =
      sweep threshold tie i first (j + 1) rest mask := by
  rw [sweep, if_neg (by simp [h])]

theorem sweep_of_wins (h : (mask.keeps j && conflicts threshold first second) = true)
    (wins : secondWins tie first second = true) :
    (sweep threshold tie i first j (second :: rest) mask).2 = mask.reject i := by
  rw [sweep, if_pos h, if_pos wins]

theorem sweep_of_not_wins (h : (mask.keeps j && conflicts threshold first second) = true)
    (wins : secondWins tie first second = false) :
    (sweep threshold tie i first j (second :: rest) mask).2 =
      (sweep threshold tie i first (j + 1) rest (mask.reject j)).2 := by
  rw [sweep, if_pos h, if_neg (by simp [wins])]

end

/-- What comparing row `i` with the rows from `j` on leaves of row `i`, of those rows and of all rows
before them. -/
structure Swept (i j : Nat) (first : Row) (rest : List Row) (mask mask' : Mask) : Prop where
  stays : mask'.keeps i = (mask.keeps i &&
    (challenge (clashes threshold) (defeats tie) (first, i) (mask.kept j rest)).1)
  left : mask'.kept j rest =
    (challenge (clashes threshold) (defeats tie) (first, i) (mask.kept j rest)).2
  before : ∀ k < j, k ≠ i → mask'.keeps k = mask.keeps k
  size : mask'.size = mask.size

section
variable {threshold} {tie} {i j : Nat} {first second : Row} {rest : List Row} {mask mask' : Mask}

/-- A row that is rejected already makes no difference. -/
theorem Swept.of_rejected (h : i < j) (hk : mask.keeps j = false)
    (ih : Swept threshold tie i (j + 1) first rest mask mask') :
    Swept threshold tie i j first (second :: rest) mask mask' := by
  obtain ⟨stays, left, before, size⟩ := ih
  have hj := before j (Nat.lt_succ_self j) (Nat.ne_of_gt h)
  have hkept : mask.kept j (second :: rest) = mask.kept (j + 1) rest := by
    rw [Mask.kept_cons, if_neg (by simp [hk])]
  refine ⟨?_, ?_, fun k hlt => before k (Nat.lt_succ_of_lt hlt), size⟩
  · rw [stays, hkept]
  · rw [Mask.kept_cons, if_neg (by simp [hj, hk]), left, hkept]

/-- A row that does not clash stays. -/
theorem Swept.of_apart (h : i < j) (hk : mask.keeps j = true)
    (hc : conflicts threshold first second = false)
    (ih : Swept threshold tie i (j + 1) first rest mask mask') :
    Swept threshold tie i j first (second :: rest) mask mask' := by
  obtain ⟨stays, left, before, size⟩ := ih
  have hj := before j (Nat.lt_succ_self j) (Nat.ne_of_gt h)
  have hclash : clashes threshold (first, i) (second, j) = false := hc
  have hkept : mask.kept j (second :: rest) = (second, j) :: mask.kept (j + 1) rest := by
    rw [Mask.kept_cons, if_pos hk]
  refine ⟨?_, ?_, fun k hlt => before k (Nat.lt_succ_of_lt hlt), size⟩
  · rw [stays, hkept, challenge_of_not_clash _ hclash]
  · rw [Mask.kept_cons, if_pos (hj.trans hk), left, hkept, challenge_of_not_clash _ hclash]

/-- A row that clashes and loses is rejected before the comparison goes on. -/
theorem Swept.of_not_wins (h : i < j) (hk : mask.keeps j = true)
    (hc : conflicts threshold first second = true) (hw : secondWins tie first second = false)
    (ih : Swept threshold tie i (j + 1) first rest (mask.reject j) mask') :
    Swept threshold tie i j first (second :: rest) mask mask' := by
  obtain ⟨stays, left, before, size⟩ := ih
  have hne : j ≠ i := Nat.ne_of_gt h
  have hj := before j (Nat.lt_succ_self j) hne
  have hclash : clashes threshold (first, i) (second, j) = true := hc
  have hdefeat : defeats tie (first, i) (second, j) = false := hw
  have hkept : mask.kept j (second :: rest) = (second, j) :: mask.kept (j + 1) rest := by
    rw [Mask.kept_cons, if_pos hk]
  rw [Mask.kept_reject rest (Nat.lt_succ_self j)] at stays left
  rw [Mask.keeps_reject_self] at hj
  refine ⟨?_, ?_, fun k hlt hki => ?_, size.trans (Mask.size_reject mask j)⟩
  · rw [stays, hkept, challenge_of_not_wins _ hclash hdefeat, Mask.keeps_reject_of_ne mask hne.symm]
  · rw [Mask.kept_cons, if_neg (by simp [hj]), left, hkept, challenge_of_not_wins _ hclash hdefeat]
  · rw [before k (Nat.lt_succ_of_lt hlt) hki, Mask.keeps_reject_of_ne mask (Nat.ne_of_lt hlt)]

/-- A row that clashes and wins ends the comparison: row `i` is rejected and nothing else. -/
theorem swept_of_wins (h : i < j) (hk : mask.keeps j = true)
    (hc : conflicts threshold first second = true) (hw : secondWins tie first second = true) :
    Swept threshold tie i j first (second :: rest) mask (mask.reject i) := by
  have hclash : clashes threshold (first, i) (second, j) = true := hc
  have hdefeat : defeats tie (first, i) (second, j) = true := hw
  have hkept : mask.kept j (second :: rest) = (second, j) :: mask.kept (j + 1) rest := by
    rw [Mask.kept_cons, if_pos hk]
  refine ⟨?_, ?_, fun k _ hki => ?_, Mask.size_reject mask i⟩
  · rw [hkept, challenge_of_wins _ hclash hdefeat, Mask.keeps_reject_self, Bool.and_false]
  · rw [hkept, challenge_of_wins _ hclash hdefeat, Mask.kept_reject _ h, hkept]
  · rw [Mask.keeps_reject_of_ne mask hki]

end

theorem swept_sweep {i j : Nat} (first : Row) (rest : List Row) (mask : Mask) (h : i < j) :
    Swept threshold tie i j first rest mask (sweep threshold tie i first j rest mask).2 := by
  induction rest generalizing j mask with
  | nil => exact ⟨by simp [sweep, challenge], rfl, fun _ _ _ => rfl, rfl⟩
  | cons second rest ih =>
    have hnext : i < j + 1 := Nat.lt_succ_of_lt h
    cases hk : mask.keeps j with
    | false =>
      rw [sweep_of_apart rest (by rw [hk, Bool.false_and])]
      exact (ih mask hnext).of_rejected h hk
    | true =>
      cases hc : conflicts threshold first second with
      | false =>
        rw [sweep_of_apart rest (by rw [hc, Bool.and_false])]
        exact (ih mask hnext).of_apart h hk hc
      | true =>
        have hboth : (mask.keeps j && conflicts threshold first second) = true := by rw [hk, hc]; rfl
        cases hw : secondWins tie first second with
        | true =>
          rw [sweep_of_wins rest hboth hw]
          exact swept_of_wins h hk hc hw
        | false =>
          rw [sweep_of_not_wins rest hboth hw]
          exact (ih (mask.reject j) hnext).of_not_wins h hk hc hw

/-! ## All rows in turn -/

/-- What comparing the rows from `i` on with those behind them leaves of these rows and of those
before. -/
structure Suppressed (i : Nat) (rows : List Row) (mask mask' : Mask) : Prop where
  left : mask'.kept i rows = contest (clashes threshold) (defeats tie) (mask.kept i rows)
  before : ∀ k < i, mask'.keeps k = mask.keeps k
  size : mask'.size = mask.size

theorem suppressed_suppressFrom (i : Nat) (rows : List Row) (mask : Mask) :
    Suppressed threshold tie i rows mask (suppressFrom threshold tie i rows mask).2 := by
  induction rows generalizing i mask with
  | nil => exact ⟨by simp [suppressFrom], fun _ _ => rfl, rfl⟩
  | cons first rest ih =>
    cases hk : mask.keeps i with
    | false =>
      have hstep : (suppressFrom threshold tie i (first :: rest) mask).2 =
          (suppressFrom threshold tie (i + 1) rest mask).2 := by simp [suppressFrom, hk]
      obtain ⟨left, before, size⟩ := ih (i + 1) mask
      have hi := before i (Nat.lt_succ_self i)
      rw [hstep]
      refine ⟨?_, fun k hlt => before k (Nat.lt_succ_of_lt hlt), size⟩
      rw [Mask.kept_cons, if_neg (by simp [hi, hk]), left, Mask.kept_cons, if_neg (by simp [hk])]
    | true =>
      have hstep : (suppressFrom threshold tie i (first :: rest) mask).2 =
          (suppressFrom threshold tie (i + 1) rest
            (sweep threshold tie i first (i + 1) rest mask).2).2 := by simp [suppressFrom, hk]
      obtain ⟨stays, others, untouched, size⟩ :=
        swept_sweep threshold tie first rest mask (Nat.lt_succ_self i)
      -- Row `i` is settled by its own comparison: what follows leaves the mask alone up to there.
      obtain ⟨left, before, size'⟩ := ih (i + 1) (sweep threshold tie i first (i + 1) rest mask).2
      have hi := before i (Nat.lt_succ_self i)
      rw [stays, hk, Bool.true_and] at hi
      rw [hstep]
      refine ⟨?_, fun k hlt => ?_, size'.trans size⟩
      · rw [Mask.kept_cons, hi, left, others, Mask.kept_cons, if_pos hk, contest_cons]
      · rw [before k (Nat.lt_succ_of_lt hlt), untouched k (Nat.lt_succ_of_lt hlt) (Nat.ne_of_lt hlt)]

/-- Suppression succeeds on a mask of the right size, and keeps the winners of the contest between the
rows that the mask kept. -/
theorem suppress_eq_contest {rows : Array Row} {mask : Mask} (h : rows.size = mask.size) :
    ∃ count mask', suppress rows threshold tie mask = .ok (count, mask') ∧ mask'.size = mask.size ∧
      mask'.kept 0 rows.toList =
        contest (clashes threshold) (defeats tie) (mask.kept 0 rows.toList) := by
  obtain ⟨left, -, size⟩ := suppressed_suppressFrom threshold tie 0 rows.toList mask
  refine ⟨(suppressFrom threshold tie 0 rows.toList mask).1, _, ?_, size, left⟩
  rw [suppress, if_pos h]

/-! ## Rows below the confidence threshold -/

/-- The filter rejects exactly the rows from its index on that lie below the threshold. -/
theorem kept_rejectBelow (i : Nat) (rows : List Row) (mask : Mask) :
    (rejectBelow threshold i rows mask).kept i rows =
        (mask.kept i rows).filter (fun entry => !decide (entry.1.objectness < threshold)) ∧
      ∀ k < i, (rejectBelow threshold i rows mask).keeps k = mask.keeps k := by
  induction rows generalizing i mask with
  | nil => exact ⟨rfl, fun _ _ => rfl⟩
  | cons row rest ih =>
    by_cases hlow : row.objectness < threshold
    · obtain ⟨left, before⟩ := ih (i + 1) (mask.reject i)
      have hi := before i (Nat.lt_succ_self i)
      rw [Mask.keeps_reject_self] at hi
      rw [rejectBelow, if_pos hlow]
      refine ⟨?_, fun k hlt => ?_⟩
      · rw [Mask.kept_cons, if_neg (by simp [hi]), left, Mask.kept_reject rest (Nat.lt_succ_self i),
          Mask.kept_cons]
        split
        · rw [List.filter_cons_of_neg (by simp [hlow])]
        · rfl
      · rw [before k (Nat.lt_succ_of_lt hlt), Mask.keeps_reject_of_ne mask (Nat.ne_of_lt hlt)]
    · obtain ⟨left, before⟩ := ih (i + 1) mask
      have hi := before i (Nat.lt_succ_self i)
      rw [rejectBelow, if_neg hlow]
      refine ⟨?_, fun k hlt => before k (Nat.lt_succ_of_lt hlt)⟩
      rw [Mask.kept_cons, Mask.kept_cons, hi, left]
      split
      · rw [List.filter_cons_of_pos (by simp [hlow])]
      · rfl

@[simp] theorem size_rejectBelow (i : Nat) (rows : List Row) (mask : Mask) :
    (rejectBelow threshold i rows mask).size = mask.size := by
  induction rows generalizing i mask with
  | nil => rfl
  | cons row rest ih =>
    rw [rejectBelow, ih]
    split
    · exact Mask.size_reject mask i
    · rfl

/-- The numbered rows that are not below a threshold. -/
def candidates (rows : Array Row) (confidence : Float32) : List (Row × Nat) :=
  (rows.toList.zipIdx 0).filter fun entry => !decide (entry.1.objectness < confidence)

/-- The filter succeeds on a mask of the right size, and keeps the candidates, whatever the mask kept. -/
theorem filterConfidence_eq {rows : Array Row} {mask : Mask} (h : rows.size = mask.size) :
    ∃ mask', filterConfidence rows threshold mask = .ok mask' ∧ mask'.size = mask.size ∧
      mask'.kept 0 rows.toList = candidates rows threshold := by
  refine ⟨rejectBelow threshold 0 rows.toList mask.reset, ?_, ?_, ?_⟩
  · rw [filterConfidence, if_pos h]
  · rw [size_rejectBelow, Mask.size_reset]
  · rw [(kept_rejectBelow threshold 0 rows.toList mask.reset).1, Mask.kept_reset h, candidates]

end FrameDetect.Detect
