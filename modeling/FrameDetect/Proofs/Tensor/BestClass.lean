import FrameDetect.Tensor.View
import Mathlib.Data.List.Basic

/-!
# The best class is a class

The best class of a row is found by a pass over its scores.  Each row has a score for each class of the
layout, and there is at least one class, so the index that is found is that of a class.
-/

namespace FrameDetect.Detect

/-- The pass ends at an index of its list, if it does not stay where it begins. -/
theorem index_foldl_lt {n : Nat} (entries : List (Float32 × Nat)) {best : ClassScore}
    (hbest : best.index < n) (h : ∀ entry ∈ entries, entry.2 < n) :
    (entries.foldl
      (fun best (score, index) => if best.score < score then ⟨index, score⟩ else best)
      best).index < n := by
  induction entries generalizing best with
  | nil => exact hbest
  | cons entry rest ih =>
    obtain ⟨score, index⟩ := entry
    obtain ⟨hindex, hrest⟩ := List.forall_mem_cons.1 h
    rw [List.foldl_cons]
    refine ih ?_ hrest
    dsimp only
    split
    · exact hindex
    · exact hbest

theorem index_bestClass_lt {scores : List Float32} (h : 0 < scores.length) :
    (bestClass scores).index < scores.length :=
  index_foldl_lt _ h fun _ hmem => List.snd_lt_of_mem_zipIdx hmem

end FrameDetect.Detect

namespace FrameDetect.Tensor.View

/-- The best class of a row is one of the layout. -/
theorem index_best_lt (v : View) (i : Fin v.rows) : (v.best i).index < v.layout.classes := by
  have hlength : (v.scores i).length = v.layout.classes := List.length_ofFn
  have hpos : 0 < (v.scores i).length := hlength ▸ v.layout.classes_pos
  exact hlength ▸ Detect.index_bestClass_lt hpos

end FrameDetect.Tensor.View
