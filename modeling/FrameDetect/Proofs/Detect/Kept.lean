import FrameDetect.Detect.Mask
import FrameDetect.Detect.Row
import Mathlib.Data.List.Basic

/-!
# Rows that a mask keeps

A mask over rows stands for the list of the rows that it keeps, each with its index.  Rejecting a row
changes what is kept at its index and nowhere else.
-/

namespace FrameDetect.Detect

namespace Mask

@[simp] theorem keeps_clear (n index : Nat) : (clear n).keeps index = decide (index < n) := by
  simp only [keeps, clear, Array.getElem?_replicate]
  split <;> simp [*]

theorem keeps_reject_self (mask : Mask) (index : Nat) : (mask.reject index).keeps index = false := by
  simp only [keeps, reject, Array.getElem?_setIfInBounds_self]
  split <;> rfl

theorem keeps_reject_of_ne (mask : Mask) {rejected index : Nat} (h : index ≠ rejected) :
    (mask.reject rejected).keeps index = mask.keeps index := by
  simp only [keeps, reject, Array.getElem?_setIfInBounds_ne h.symm]

theorem lt_size_of_keeps {mask : Mask} {index : Nat} (h : mask.keeps index = true) :
    index < mask.size := by
  rw [keeps, beq_iff_eq] at h
  exact (Array.getElem?_eq_some_iff.1 h).1

/-- The rows that a mask keeps, of which the first has the given index. -/
def kept (mask : Mask) (start : Nat) (rows : List Row) : List (Row × Nat) :=
  (rows.zipIdx start).filter fun entry => mask.keeps entry.2

@[simp] theorem kept_nil (mask : Mask) (start : Nat) : mask.kept start [] = [] := rfl

theorem kept_cons (mask : Mask) (start : Nat) (row : Row) (rest : List Row) :
    mask.kept start (row :: rest) =
      if mask.keeps start then (row, start) :: mask.kept (start + 1) rest
      else mask.kept (start + 1) rest := by
  simp only [kept, List.zipIdx_cons, List.filter_cons]

/-- Rows are kept in the order of their indices. -/
theorem pairwise_kept (mask : Mask) (start : Nat) (rows : List Row) :
    (mask.kept start rows).Pairwise fun x y => x.2 < y.2 := by
  refine List.Pairwise.sublist List.filter_sublist ?_
  rw [← List.pairwise_map, List.zipIdx_map_snd]
  exact List.pairwise_lt_range'

/-- What is kept from an index on depends on the mask from that index on. -/
theorem kept_congr {mask mask' : Mask} {start : Nat} (rows : List Row)
    (h : ∀ index, start ≤ index → mask.keeps index = mask'.keeps index) :
    mask.kept start rows = mask'.kept start rows := by
  apply List.filter_congr
  intro entry hentry
  exact h entry.2 (List.le_snd_of_mem_zipIdx hentry)

theorem kept_reject {mask : Mask} {rejected start : Nat} (rows : List Row) (h : rejected < start) :
    (mask.reject rejected).kept start rows = mask.kept start rows := by
  apply kept_congr
  intro index hindex
  exact keeps_reject_of_ne mask (Nat.ne_of_gt (Nat.lt_of_lt_of_le h hindex))

/-- A clear mask keeps all of its rows. -/
theorem kept_reset {mask : Mask} {rows : List Row} (h : rows.length = mask.size) :
    mask.reset.kept 0 rows = rows.zipIdx 0 := by
  apply List.filter_eq_self.2
  intro entry hentry
  rw [reset, keeps_clear, decide_eq_true_eq, ← h]
  exact List.snd_lt_of_mem_zipIdx hentry

/-- The survivors are the indices of the rows that are kept. -/
theorem survivors_eq (mask : Mask) {rows : Array Row} (h : rows.size = mask.size) :
    mask.survivors = (mask.kept 0 rows.toList).map Prod.snd := by
  have hrange : List.range mask.size = (rows.toList.zipIdx 0).map Prod.snd := by
    rw [List.zipIdx_map_snd, ← List.range_eq_range', Array.length_toList, h]
  rw [survivors, hrange, kept, List.filter_map]
  rfl

end Mask

end FrameDetect.Detect
