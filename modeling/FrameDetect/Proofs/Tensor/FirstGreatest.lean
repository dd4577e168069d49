import FrameDetect.Proofs.Tensor.BestClass
import FrameDetect.Proofs.Tensor.ByteOrder
import FrameDetect.Proofs.Tensor.Locality

/-!
# The best class is the first of the greatest

The pass over the scores of a row begins with negative infinity, which is below all other numbers.  After any
number of scores it is at the first of the greatest ones that it has seen.  Scores are in the order of their
bytes, so that the greatest score is that of the greatest byte.
-/

namespace FrameDetect.Detect

open FrameDetect.Number

/-! ## The pass over the scores -/

theorem isNaN_belowAll : belowAll.isNaN = false := rfl

/-- Negative infinity is at most any number. -/
theorem belowAll_le {x : Float32} (hx : x.isNaN = false) : belowAll ≤ x := by
  have hvalue : value belowAll = ⊥ := rfl
  exact le_iff_value.2 ⟨isNaN_belowAll, hx, hvalue.trans_le bot_le⟩

/-- Only negative infinity itself is not above negative infinity. -/
theorem eq_belowAll {x : Float32} (h : x ≤ belowAll) : x = belowAll := by
  obtain ⟨hx, -, hvalue⟩ := le_iff_value.1 h
  rcases isFinite_or_infinity hx with hfinite | ⟨sign, hinf⟩
  · rw [value_of_isFinite hfinite] at hvalue
    exact absurd (le_bot_iff.1 hvalue) (EReal.coe_ne_bot _)
  · cases sign with
    | negative => exact eq_of_unpack_eq hinf
    | positive =>
      rw [value, hinf] at hvalue
      exact absurd (le_bot_iff.1 hvalue) bot_ne_top.symm

/-- One more score replaces the best one if it is greater. -/
theorem bestClass_concat (scores : List Float32) (s : Float32) :
    bestClass (scores ++ [s]) =
      if (bestClass scores).score < s then ⟨scores.length, s⟩ else bestClass scores := by
  rw [bestClass, List.zipIdx_append, List.foldl_append, Nat.zero_add]
  rfl

/-- The first of the greatest scores, or what the pass begins with. -/
structure Leads (scores : List Float32) (best : ClassScore) : Prop where
  greatest : ∀ (k : Nat) (s : Float32), scores[k]? = some s → s ≤ best.score
  first : ∀ (k : Nat) (s : Float32), scores[k]? = some s → k < best.index → s < best.score
  found : best = ⟨0, belowAll⟩ ∨ scores[best.index]? = some best.score

/-- The best score is a number if all scores are. -/
theorem Leads.isNaN_score {scores : List Float32} {best : ClassScore} (h : Leads scores best)
    (numbers : ∀ s ∈ scores, s.isNaN = false) : best.score.isNaN = false := by
  rcases h.found with rfl | hfound
  · exact isNaN_belowAll
  · exact numbers best.score (List.mem_of_getElem? hfound)

theorem Leads.index_le {scores : List Float32} {best : ClassScore} (h : Leads scores best) :
    best.index ≤ scores.length := by
  rcases h.found with rfl | hfound
  · exact Nat.zero_le _
  · exact Nat.le_of_lt (List.getElem?_eq_some_iff.1 hfound).1

/-- The pass stays at the first of the greatest scores when it goes on by one. -/
theorem Leads.concat {scores : List Float32} {best : ClassScore} {s : Float32} (h : Leads scores best)
    (numbers : ∀ s ∈ scores, s.isNaN = false) (hs : s.isNaN = false) :
    Leads (scores ++ [s]) (if best.score < s then ⟨scores.length, s⟩ else best) := by
  have hbest := h.isNaN_score numbers
  have split (k : Nat) (t : Float32) (ht : (scores ++ [s])[k]? = some t) :
      scores[k]? = some t ∨ k = scores.length ∧ t = s := by
    by_cases hk : k < scores.length
    · rw [List.getElem?_append_left hk] at ht
      exact .inl ht
    · rw [List.getElem?_append_right (Nat.le_of_not_lt hk), List.getElem?_singleton] at ht
      split at ht
      · exact .inr ⟨by omega, (Option.some.inj ht).symm⟩
      · cases ht
  by_cases hlt : best.score < s
  · rw [if_pos hlt]
    constructor
    case greatest =>
      intro k t ht
      rcases split k t ht with hold | ⟨-, rfl⟩
      · exact lt_imp_le (le_trans_lt (h.greatest k t hold) hlt)
      · exact (not_lt_iff hs hs).1 fun hself => not_lt_of_lt hself hself
    case first =>
      intro k t ht hk
      rcases split k t ht with hold | ⟨hlast, -⟩
      · exact le_trans_lt (h.greatest k t hold) hlt
      · exact absurd hlast (Nat.ne_of_lt hk)
    case found => exact .inr (by simp)
  · rw [if_neg hlt]
    constructor
    case greatest =>
      intro k t ht
      rcases split k t ht with hold | ⟨-, rfl⟩
      · exact h.greatest k t hold
      · exact (not_lt_iff hbest hs).1 hlt
    case first =>
      intro k t ht hk
      rcases split k t ht with hold | ⟨hlast, -⟩
      · exact h.first k t hold hk
      · exact absurd h.index_le (by omega)
    case found =>
      refine h.found.imp_right fun hfound => ?_
      rw [List.getElem?_append_left (List.getElem?_eq_some_iff.1 hfound).1]
      exact hfound

/-- After all scores the pass is at the first of the greatest ones. -/
theorem leads_bestClass {scores : List Float32} (numbers : ∀ s ∈ scores, s.isNaN = false) :
    Leads scores (bestClass scores) := by
  induction scores using List.reverseRecOn with
  | nil => exact ⟨by simp, by simp, .inl rfl⟩
  | append_singleton scores s ih =>
    have hscores : ∀ t ∈ scores, t.isNaN = false := by
      intro t ht
      exact numbers t (List.mem_append_left _ ht)
    rw [bestClass_concat]
    exact (ih hscores).concat hscores (numbers s (by simp))

/-- If there is any score, then the best score is one, also if all of them are negative infinity. -/
theorem getElem?_bestClass {scores : List Float32} (numbers : ∀ s ∈ scores, s.isNaN = false)
    (hpos : 0 < scores.length) : scores[(bestClass scores).index]? = some (bestClass scores).score := by
  have h := leads_bestClass numbers
  rcases h.found with hseed | hfound
  · have hfirst : scores[0]? = some scores[0] := List.getElem?_eq_getElem hpos
    have hlow := h.greatest 0 scores[0] hfirst
    rw [hseed] at hlow ⊢
    exact hfirst.trans (congrArg some (eq_belowAll hlow))
  · exact hfound

end FrameDetect.Detect

namespace FrameDetect.Tensor

open FrameDetect.Detect (ClassScore bestClass getElem?_bestClass leads_bestClass)
open FrameDetect.Number (beq_iff_value le_iff_value)

namespace View

/-! ## The scores of a row -/

variable (v : View)

theorem classOffset_lt (i : Fin v.rows) (k : Fin v.layout.classes) :
    i.val * v.layout.rowSize + (boxFields + k.val) < v.bytes.size :=
  v.offset_lt i ⟨boxFields + k.val, Nat.add_lt_add_left k.isLt boxFields⟩

/-- The byte of a class in a row. -/
def classByte (i : Fin v.rows) (k : Fin v.layout.classes) : UInt8 :=
  v.bytes.get (i.val * v.layout.rowSize + (boxFields + k.val)) (v.classOffset_lt i k)

/-- The score of a class in a row. -/
def classScore (i : Fin v.rows) (k : Fin v.layout.classes) : Float32 :=
  v.layout.quantization.dequantize (v.classByte i k)

theorem scores_eq (i : Fin v.rows) : v.scores i = List.ofFn (v.classScore i) := rfl

theorem getElem?_scores (i : Fin v.rows) (k : Fin v.layout.classes) :
    (v.scores i)[k.val]? = some (v.classScore i k) := by
  simp [scores_eq]

/-- The first of the greatest scores of a row.  It is the score of its class, no class has a greater one, and
each class before it has a smaller one.  The greatest byte of all classes stands for the same number. -/
structure FirstGreatest (i : Fin v.rows) (best : ClassScore) : Prop where
  index_lt : best.index < v.layout.classes
  score_eq : best.score = v.classScore i ⟨best.index, index_lt⟩
  greatest : ∀ k, v.classScore i k ≤ best.score
  first : ∀ k : Fin v.layout.classes, k.val < best.index → v.classScore i k < best.score
  greatestByte : ∃ k, (∀ other, v.classByte i other ≤ v.classByte i k) ∧
    (best.score == v.layout.quantization.dequantize (v.classByte i k)) = true

variable {v}

theorem isNaN_of_mem_scores (h : v.layout.quantization.Usable) {i : Fin v.rows} {s : Float32}
    (hs : s ∈ v.scores i) : s.isNaN = false := by
  rw [scores_eq, List.mem_ofFn] at hs
  obtain ⟨k, rfl⟩ := hs
  exact h.isNaN_dequantize _

theorem firstGreatest_best (h : v.layout.quantization.Usable) (i : Fin v.rows) :
    v.FirstGreatest i (v.best i) := by
  have hlength : (v.scores i).length = v.layout.classes := List.length_ofFn
  have numbers : ∀ s ∈ v.scores i, s.isNaN = false := fun _ => isNaN_of_mem_scores h
  have hleads := leads_bestClass numbers
  have hindex := v.index_best_lt i
  have hscore : (v.best i).score = v.classScore i ⟨(v.best i).index, hindex⟩ := by
    have hfound := getElem?_bestClass numbers (hlength ▸ v.layout.classes_pos)
    rw [← best, v.getElem?_scores i ⟨(v.best i).index, hindex⟩] at hfound
    exact (Option.some.inj hfound).symm
  have hgreatest (k : Fin v.layout.classes) : v.classScore i k ≤ (v.best i).score :=
    hleads.greatest k _ (v.getElem?_scores i k)
  refine ⟨hindex, hscore, hgreatest, fun k hk => hleads.first k _ (v.getElem?_scores i k) hk, ?_⟩
  -- the greatest byte stands for at least the best score, which in turn no class exceeds
  have : Nonempty (Fin v.layout.classes) := ⟨⟨0, v.layout.classes_pos⟩⟩
  obtain ⟨k, hmax⟩ := Finite.exists_max fun k => (v.classByte i k).toNat
  have hk (other : Fin v.layout.classes) : v.classByte i other ≤ v.classByte i k :=
    UInt8.le_iff_toNat_le.2 (hmax other)
  have hlow : (v.best i).score ≤ v.classScore i k := by
    rw [hscore]
    exact h.dequantize_mono (hk _)
  obtain ⟨hnum, hnum', hle⟩ := le_iff_value.1 hlow
  exact ⟨k, hk, beq_iff_value.2 ⟨hnum, hnum', le_antisymm hle (le_iff_value.1 (hgreatest k)).2.2⟩⟩

end View

/-- In every row of an accepted tensor the best class is the first of the greatest, whatever its bytes are:
its score is its own, no class has a greater one, each class before it has a smaller one, and the greatest
byte of the row stands for it. -/
theorem best_class_is_first_greatest {m : Manifest} {l : Layout} (hm : Layout.ofManifest m = .ok l)
    {bytes : ByteArray} {v : View} (hv : View.ofBytes l bytes = .ok v) {n : Nat} (hn : n < l.rows) :
    ∃ i, v.rowIndex n = .ok i ∧ i.val = n ∧ v.FirstGreatest i (v.best i) := by
  obtain ⟨i, hi, hin⟩ := ((View.readsByRow l).hasRow bytes v hv n).2 hn
  obtain ⟨rfl, -⟩ := View.eq_of_ofBytes hv
  exact ⟨i, hi, hin, View.firstGreatest_best (Layout.usable_of_ofManifest hm) i⟩

/-- A manifest of one row with three classes. -/
def threeClasses : Manifest := ⟨640, 640, 0.5, 4, 3, 1⟩

/-- A tensor whose second and third class have the greatest byte. -/
def threeClassesView : View :=
  ⟨⟨640, 640, ⟨0.5, 4⟩, 3, 1, by decide, Nat.one_pos, by decide⟩,
    ⟨#[9, 9, 6, 6, 200, 7, 9, 9]⟩, by decide⟩

theorem best_class_is_first_greatest_threeClasses :
    Layout.ofManifest threeClasses = .ok threeClassesView.layout ∧
      View.ofBytes threeClassesView.layout threeClassesView.bytes = .ok threeClassesView ∧
      0 < threeClassesView.layout.rows ∧
      ∃ i, threeClassesView.rowIndex 0 = .ok i ∧ i.val = 0 ∧
        threeClassesView.FirstGreatest i (threeClassesView.best i) := by
  have layout : Layout.ofManifest threeClasses = .ok threeClassesView.layout := rfl
  have view : View.ofBytes threeClassesView.layout threeClassesView.bytes = .ok threeClassesView := rfl
  exact ⟨layout, view, by decide, best_class_is_first_greatest layout view (by decide)⟩

example : threeClassesView.best ⟨0, by decide⟩ = ⟨1, 2.5⟩ := by decide +kernel

end FrameDetect.Tensor
