import FrameDetect.Cycle.Outcome
import FrameDetect.Proofs.Basic
import FrameDetect.Proofs.Detect.InPlace
import Mathlib.Data.List.Induction

/-!
# The upkeep of scratch space

The owner of scratch space may decode, filter, suppress, reject, reset and resolve in any order, also with
tensors that do not fit it.  Whatever was done before, the rows are those of the last tensor that was
decoded, and a row is valid unless it was rejected after the mask was last cleared.  An operation that fails
leaves everything as it was.
-/

namespace FrameDetect.Detect

open FrameDetect.Tensor (Layout View)

/-- What is done with scratch space.  A tensor is given by its bytes and its layout. -/
inductive Operation where
  | decode (layout : Layout) (bytes : ByteArray)
  | filter (threshold : Float32)
  | suppress (threshold : Float32) (tie : TieBreak)
  | invalidate (index : Nat)
  | reset
  | resolve (layout : Layout) (bytes : ByteArray)

/-- What an operation gives back. -/
inductive Answer where
  | done
  | count (n : Nat)
  | detections (detections : List Detection)

/-! ## Operations on scratch space as a whole -/

/-- What is done with a tensor, if it is long enough. -/
def onView {α : Type} (layout : Layout) (bytes : ByteArray) (f : View → Except Fault α) :
    Except Cycle.Fault α :=
  match View.ofBytes layout bytes with
  | .ok view => (f view).mapError .broken
  | .error short => .error (.malformedTensor short)

/-- An operation on scratch space. -/
def Scratch.operate (s : Scratch) : Operation → Except Cycle.Fault (Answer × Scratch)
  | .decode layout bytes => (onView layout bytes s.decode).map fun s => (.done, s)
  | .filter threshold => ((s.filter threshold).mapError .broken).map fun s => (.done, s)
  | .suppress threshold tie =>
    ((s.suppress threshold tie).mapError .broken).map fun (n, s) => (.count n, s)
  | .invalidate index => ((s.invalidate index).mapError .broken).map fun s => (.done, s)
  | .reset => .ok (.done, s.reset)
  | .resolve layout bytes =>
    (onView layout bytes s.resolve).map fun detections => (.detections detections, s)

/-! ## Operations in place -/

namespace Working

variable {α : Type}

/-- Goes through steps, and answers if they succeed. -/
def carryOut (w : Working) (x : InPlace α) (answer : α → Answer) : Except Cycle.Fault Answer × Working :=
  match x w with
  | (.ok a, w) => (.ok (answer a), w)
  | (.error fault, w) => (.error (.broken fault), w)

/-- Goes through steps with a tensor, if it is long enough. -/
def carryOutOn (w : Working) (layout : Layout) (bytes : ByteArray) (x : View → InPlace α)
    (answer : α → Answer) : Except Cycle.Fault Answer × Working :=
  match View.ofBytes layout bytes with
  | .ok view => w.carryOut (x view) answer
  | .error short => (.error (.malformedTensor short), w)

/-- An operation on scratch space in use. -/
def operate (w : Working) : Operation → Except Cycle.Fault Answer × Working
  | .decode layout bytes => w.carryOutOn layout bytes InPlace.decode fun _ => .done
  | .filter threshold => w.carryOut (InPlace.filter threshold) fun _ => .done
  | .suppress threshold tie => w.carryOut (InPlace.suppress threshold tie) .count
  | .invalidate index => w.carryOut (InPlace.invalidate index) fun _ => .done
  | .reset => w.carryOut InPlace.reset fun _ => .done
  | .resolve layout bytes => w.carryOutOn layout bytes InPlace.resolve .detections

/-- One operation after the other, whether they fail or not, with what each gives back. -/
def operateAll (w : Working) : List Operation → List (Operation × Except Cycle.Fault Answer) × Working
  | [] => ([], w)
  | operation :: rest =>
    let (answer, w) := w.operate operation
    let (history, w) := w.operateAll rest
    ((operation, answer) :: history, w)

end Working

/-! ## What an operation does -/

/-- The rows after an operation that has succeeded. -/
def Operation.rowsAfter (rows : Array Row) : Operation → Array Row
  | .decode layout bytes =>
    match View.ofBytes layout bytes with
    | .ok view => Array.ofFn view.row
    | .error _ => rows
  | _ => rows

/-- The marks that an operation makes with an answer. -/
def Operation.Makes (s : Scratch) (marks : List Mark) : Operation → Answer → Prop
  | .filter threshold, _ => marks = .wipe :: (InPlace.below threshold 0 s.rows.toList).map .hit
  | .suppress _ _, answer => ∃ hits : List Nat, marks = hits.map .hit ∧ answer = .count hits.length ∧
      hits.Nodup ∧ ∀ i ∈ hits, s.mask.keeps i = true
  | .invalidate index, _ => marks = [.hit index]
  | .reset, _ => marks = [.wipe]
  | .decode _ _, _ | .resolve _ _, _ => marks = []

/-- An operation has succeeded. -/
structure Done (operation : Operation) (w : Working) (answer : Answer) (w' : Working) : Prop where
  whole : w.scratch.operate operation = .ok (answer, w'.scratch)
  size : w'.scratch.rows.size = w.scratch.rows.size
  rows : w'.scratch.rows = operation.rowsAfter w.scratch.rows
  marks : ∃ new, operation.Makes w.scratch new answer ∧ w'.marks = w.marks ++ new ∧
    w'.scratch.mask = new.foldl Mark.apply w.scratch.mask

/-- What an operation does in place: it succeeds, or it leaves everything as it was. -/
inductive Does (operation : Operation) (w : Working) : Except Cycle.Fault Answer × Working → Prop
  | succeeds {answer : Answer} {w' : Working} : Done operation w answer w' →
    Does operation w (.ok answer, w')
  | fails {fault : Cycle.Fault} : w.scratch.operate operation = .error fault →
    Does operation w (.error fault, w)

variable {w w' : Working} {answer : Answer} {operation : Operation}

/-- An operation that makes marks and writes no rows has succeeded. -/
theorem Marked.done {new : List Mark} (h : Marked w w' new)
    (whole : w.scratch.operate operation = .ok (answer, w'.scratch))
    (hrows : operation.rowsAfter w.scratch.rows = w.scratch.rows)
    (hnew : operation.Makes w.scratch new answer) : Done operation w answer w' :=
  ⟨whole, by rw [h.rows], h.rows.trans hrows.symm, new, hnew, h.marks, h.mask⟩

theorem Marked.scratch_eq {new : List Mark} (h : Marked w w' new) :
    w'.scratch = ⟨w.scratch.rows, w'.scratch.mask⟩ := by
  rw [← h.rows]

theorem does_of_short {layout : Layout} {bytes : ByteArray} {short : Tensor.ShortTensor}
    (hview : View.ofBytes layout bytes = .error short) :
    Does (.decode layout bytes) w (w.operate (.decode layout bytes)) ∧
      Does (.resolve layout bytes) w (w.operate (.resolve layout bytes)) := by
  simp only [Working.operate, Working.carryOutOn, hview]
  constructor <;> apply Does.fails <;> simp only [Scratch.operate, onView, hview] <;> rfl

theorem does_decode (layout : Layout) (bytes : ByteArray) :
    Does (.decode layout bytes) w (w.operate (.decode layout bytes)) := by
  cases hview : View.ofBytes layout bytes with
  | error short => exact (does_of_short hview).1
  | ok view =>
    simp only [Working.operate, Working.carryOutOn, hview, Working.carryOut]
    by_cases hsize : view.rows = w.scratch.rows.size
    · rw [InPlace.decode_eq hsize]
      refine .succeeds ⟨?_, ?_, ?_, [], rfl, (List.append_nil _).symm, rfl⟩
      · have hdecode : w.scratch.decode view = .ok { w.scratch with rows := Array.ofFn view.row } :=
          if_pos hsize
        simp only [Scratch.operate, onView, hview, hdecode]
        rfl
      · rw [Array.size_ofFn, hsize]
      · simp only [Operation.rowsAfter, hview]
    · rw [InPlace.decode_eq_of_ne hsize]
      apply Does.fails
      have hdecode : w.scratch.decode view = .error .rowCountMismatch := if_neg hsize
      simp only [Scratch.operate, onView, hview, hdecode]
      rfl

theorem does_filter (threshold : Float32) :
    Does (.filter threshold) w (w.operate (.filter threshold)) := by
  by_cases hsize : w.scratch.rows.size = w.scratch.mask.size
  · obtain ⟨w', hrun, hmarked, hsame⟩ := InPlace.filter_runs threshold hsize
    simp only [Working.operate, Working.carryOut, hrun]
    refine .succeeds (hmarked.done ?_ rfl rfl)
    rw [hmarked.scratch_eq]
    simp only [Scratch.operate, Scratch.filter, hsame]
    rfl
  · simp only [Working.operate, Working.carryOut, InPlace.filter_eq_of_ne threshold hsize]
    apply Does.fails
    have hfilter : filterConfidence w.scratch.rows threshold w.scratch.mask = .error .maskMismatch :=
      if_neg hsize
    simp only [Scratch.operate, Scratch.filter, hfilter]
    rfl

theorem does_suppress (threshold : Float32) (tie : TieBreak) :
    Does (.suppress threshold tie) w (w.operate (.suppress threshold tie)) := by
  by_cases hsize : w.scratch.rows.size = w.scratch.mask.size
  · obtain ⟨hits, w', hrun, hmarked, hrejects, hsame⟩ := InPlace.suppress_runs threshold tie hsize
    simp only [Working.operate, Working.carryOut, hrun]
    refine .succeeds (hmarked.done ?_ rfl ⟨hits, rfl, rfl, hrejects.nodup⟩)
    rw [hmarked.scratch_eq]
    simp only [Scratch.operate, Scratch.suppress, hsame]
    rfl
  · simp only [Working.operate, Working.carryOut, InPlace.suppress_eq_of_ne threshold tie hsize]
    apply Does.fails
    have hsuppress : Detect.suppress w.scratch.rows threshold tie w.scratch.mask =
        .error .maskMismatch := if_neg hsize
    simp only [Scratch.operate, Scratch.suppress, hsuppress]
    rfl

theorem does_invalidate (index : Nat) :
    Does (.invalidate index) w (w.operate (.invalidate index)) := by
  by_cases h : index < w.scratch.mask.size
  · simp only [Working.operate, Working.carryOut, InPlace.invalidate_eq h]
    refine .succeeds ((Marked.single w (.hit index)).done ?_ rfl rfl)
    have hmask : w.scratch.mask.invalidate index = .ok (w.scratch.mask.reject index) := if_pos h
    simp only [Scratch.operate, Scratch.invalidate, hmask]
    rfl
  · have hrun : InPlace.invalidate index w = (.error (.outOfBounds w.scratch.mask.size index), w) :=
      if_neg h
    simp only [Working.operate, Working.carryOut, hrun]
    apply Does.fails
    have hmask : w.scratch.mask.invalidate index = .error (.outOfBounds w.scratch.mask.size index) :=
      if_neg h
    simp only [Scratch.operate, Scratch.invalidate, hmask]
    rfl

theorem does_resolve (layout : Layout) (bytes : ByteArray) :
    Does (.resolve layout bytes) w (w.operate (.resolve layout bytes)) := by
  cases hview : View.ofBytes layout bytes with
  | error short => exact (does_of_short hview).2
  | ok view =>
    simp only [Working.operate, Working.carryOutOn, hview, Working.carryOut, InPlace.resolve,
      InPlace.bind_of_ok (InPlace.scratch_eq w)]
    cases hresolve : w.scratch.resolve view with
    | ok detections =>
      refine .succeeds ((Marked.refl w).done ?_ rfl rfl)
      simp only [Scratch.operate, onView, hview, hresolve]
      rfl
    | error fault =>
      apply Does.fails
      simp only [Scratch.operate, onView, hview, hresolve]
      rfl

theorem does_operate (w : Working) (operation : Operation) :
    Does operation w (w.operate operation) := by
  cases operation with
  | decode layout bytes => exact does_decode layout bytes
  | filter threshold => exact does_filter threshold
  | suppress threshold tie => exact does_suppress threshold tie
  | invalidate index => exact does_invalidate index
  | reset => exact .succeeds ((Marked.single w .wipe).done rfl rfl rfl)
  | resolve layout bytes => exact does_resolve layout bytes

/-! ## What a mask keeps after its marks -/

/-- A row has been hit after the last wipe. -/
def Standing (marks : List Mark) (index : Nat) : Prop := Since (· = .hit index) (· ≠ .wipe) marks

/-- A mask that was clear keeps its rows but for those with a hit that no wipe has followed. -/
theorem keeps_foldl_apply (n : Nat) (marks : List Mark) (index : Nat) :
    (marks.foldl Mark.apply (.clear n)).keeps index = true ↔ index < n ∧ ¬Standing marks index := by
  unfold Standing
  induction marks using List.reverseRecOn with
  | nil => simp [not_since_nil]
  | append_singleton marks m ih =>
    rw [List.foldl_append, List.foldl_cons, List.foldl_nil, since_concat_iff]
    -- the last mark decides, unless it is a hit on another row
    cases m with
    | wipe =>
      have hsize : (marks.foldl Mark.apply (.clear n)).size = n := by
        rw [Mark.size_foldl_apply, Mask.size_clear]
      simp [Mark.apply, Mask.reset, hsize]
    | hit other =>
      by_cases hsame : index = other
      · subst hsame
        simp [Mark.apply, Mask.keeps_reject_self]
      · have hne : ¬Mark.hit other = .hit index := fun h => hsame (Mark.hit.inj h).symm
        rw [Mark.apply, Mask.keeps_reject_of_ne _ hsame, ih]
        simp [hne]

/-! ## Survivors -/

theorem pairwise_survivors (mask : Mask) : mask.survivors.Pairwise (· < ·) :=
  List.pairwise_lt_range.sublist List.filter_sublist

theorem mem_survivors {mask : Mask} {index : Nat} :
    index ∈ mask.survivors ↔ mask.keeps index = true := by
  rw [Mask.survivors, List.mem_filter, List.mem_range, and_iff_right_iff_imp]
  exact Mask.lt_size_of_keeps

theorem length_filter_range (l : List Bool) :
    ((List.range l.length).filter fun i => l[i]? == some false).length = l.count false := by
  induction l with
  | nil => rfl
  | cons b rest ih =>
    rw [List.length_cons, List.range_succ_eq_map, List.filter_cons, List.filter_map, List.count_cons, ← ih]
    cases b <;> simp [Function.comp_def]

theorem length_survivors (mask : Mask) : mask.survivors.length = mask.countValid := by
  obtain ⟨⟨l⟩⟩ := mask
  have hkeeps : Mask.keeps ⟨⟨l⟩⟩ = fun i => l[i]? == some false := by
    funext i
    rw [Mask.keeps, List.getElem?_toArray]
  rw [Mask.countValid, List.count_toArray, Mask.survivors, hkeeps]
  exact length_filter_range l

/-! ## From one operation to the next -/

/-- The rows after some operations. -/
def rowsAfterAll (rows : Array Row) (history : List (Operation × Except Cycle.Fault Answer)) : Array Row :=
  history.foldl (fun rows (operation, answer) =>
    match answer with
    | .ok _ => operation.rowsAfter rows
    | .error _ => rows) rows

/-- Scratch space in use is in order. -/
structure InOrder (layout : Layout) (history : List (Operation × Except Cycle.Fault Answer))
    (w : Working) : Prop where
  size : w.scratch.rows.size = layout.rows
  rows : w.scratch.rows = rowsAfterAll (.replicate layout.rows .zero) history
  mask : w.scratch.mask = w.marks.foldl Mark.apply (.clear layout.rows)

variable {layout : Layout} {history : List (Operation × Except Cycle.Fault Answer)}

theorem inOrder_ofLayout (layout : Layout) : InOrder layout [] ⟨.ofLayout layout, []⟩ :=
  ⟨Array.size_replicate, rfl, rfl⟩

/-- An operation keeps scratch space in order, whether it succeeds or not. -/
theorem InOrder.operate (h : InOrder layout history w) (operation : Operation) :
    InOrder layout (history ++ [(operation, (w.operate operation).1)]) (w.operate operation).2 := by
  have hdoes := does_operate w operation
  -- from here on only what `Does` says is known of the operation
  generalize w.operate operation = r at hdoes
  cases hdoes with
  | succeeds hdone =>
    obtain ⟨-, hsize, hrows, new, -, hmarks, hmask⟩ := hdone
    refine ⟨hsize.trans h.size, ?_, ?_⟩
    · rw [hrows, h.rows, rowsAfterAll, rowsAfterAll, List.foldl_append]
      rfl
    · rw [hmask, hmarks, h.mask, List.foldl_append]
  | fails =>
    refine ⟨h.size, ?_, h.mask⟩
    rw [h.rows, rowsAfterAll, rowsAfterAll, List.foldl_append]
    rfl

/-- Operation by operation, scratch space stays in order. -/
theorem InOrder.operateAll (h : InOrder layout history w) (operations : List Operation) :
    InOrder layout (history ++ (w.operateAll operations).1) (w.operateAll operations).2 := by
  induction operations generalizing history w with
  | nil =>
    rw [Working.operateAll, List.append_nil]
    exact h
  | cons operation rest ih =>
    have := ih (h.operate operation)
    rw [List.append_assoc] at this
    exact this

/-- What scratch space holds after some operations. -/
structure Kept (layout : Layout) (history : List (Operation × Except Cycle.Fault Answer))
    (w : Working) : Prop where
  rows_size : w.scratch.rows.size = layout.rows
  mask_size : w.scratch.mask.size = layout.rows
  rows : w.scratch.rows = rowsAfterAll (.replicate layout.rows .zero) history
  keeps_iff : ∀ index, w.scratch.mask.keeps index = true ↔ index < layout.rows ∧ ¬Standing w.marks index
  ascending : w.scratch.mask.survivors.Pairwise (· < ·)
  mem_survivors : ∀ index, index ∈ w.scratch.mask.survivors ↔ w.scratch.mask.keeps index = true
  countValid : w.scratch.mask.countValid = w.scratch.mask.survivors.length

theorem InOrder.kept (h : InOrder layout history w) : Kept layout history w := by
  refine ⟨h.size, ?_, h.rows, ?_, pairwise_survivors _, fun _ => mem_survivors,
    (length_survivors _).symm⟩
  · rw [h.mask, Mark.size_foldl_apply, Mask.size_clear]
  · intro index
    rw [h.mask]
    exact keeps_foldl_apply layout.rows w.marks index

/-- Whether an operation clears the mask. -/
def Operation.clears : Operation → Bool
  | .filter _ | .reset => true
  | _ => false

/-- How an operation changes scratch space.  It does in place what it does on the whole. -/
structure Changes (operation : Operation) (w : Working) : Prop where
  whole : w.scratch.operate operation =
    (w.operate operation).1.map fun answer => (answer, (w.operate operation).2.scratch)
  intact : ∀ fault, (w.operate operation).1 = .error fault → (w.operate operation).2 = w
  marks : ∀ answer, (w.operate operation).1 = .ok answer → ∃ new, operation.Makes w.scratch new answer ∧
    (w.operate operation).2.marks = w.marks ++ new
  revives : ∀ index, w.scratch.mask.keeps index = false →
    (w.operate operation).2.scratch.mask.keeps index = true → operation.clears = true

/-- A mask keeps what it kept before, but for the rows that were hit. -/
theorem keeps_foldl_hit (hits : List Nat) (mask : Mask) (index : Nat) :
    ((hits.map Mark.hit).foldl Mark.apply mask).keeps index =
      (mask.keeps index && !decide (index ∈ hits)) := by
  induction hits generalizing mask with
  | nil => simp
  | cons other rest ih =>
    rw [List.map_cons, List.foldl_cons, ih, Mark.apply]
    by_cases hsame : index = other
    · subst hsame
      simp [Mask.keeps_reject_self]
    · simp [Mask.keeps_reject_of_ne mask hsame, hsame]

/-- Hits revive no row. -/
theorem keeps_of_foldl_hit {hits : List Nat} {mask : Mask} {index : Nat}
    (h : ((hits.map Mark.hit).foldl Mark.apply mask).keeps index = true) : mask.keeps index = true := by
  rw [keeps_foldl_hit, Bool.and_eq_true] at h
  exact h.1

/-- An operation that does not clear the mask makes only hits. -/
theorem Operation.Makes.exists_hits {s : Scratch} {new : List Mark} (h : operation.Makes s new answer)
    (hclears : operation.clears = false) : ∃ hits : List Nat, new = hits.map .hit := by
  cases operation with
  | decode | resolve => exact ⟨[], h⟩
  | filter | reset => cases hclears
  | suppress =>
    obtain ⟨hits, hnew, -⟩ := h
    exact ⟨hits, hnew⟩
  | invalidate index => exact ⟨[index], h⟩

theorem changes_operate (operation : Operation) (w : Working) : Changes operation w := by
  have hdoes := does_operate w operation
  generalize hr : w.operate operation = r at hdoes
  cases hdoes with
  | succeeds hdone =>
    obtain ⟨hwhole, -, -, new, hmakes, hmarks, hmask⟩ := hdone
    refine ⟨?_, ?_, ?_, ?_⟩ <;> rw [hr]
    · exact hwhole
    · nofun
    · rintro _ ⟨⟩
      exact ⟨new, hmakes, hmarks⟩
    · intro index hrejected hkept
      by_contra hclears
      obtain ⟨hits, rfl⟩ := hmakes.exists_hits (Bool.eq_false_iff.2 hclears)
      rw [hmask] at hkept
      rw [keeps_of_foldl_hit hkept] at hrejected
      cases hrejected
  | fails hwhole =>
    refine ⟨?_, ?_, ?_, ?_⟩ <;> rw [hr]
    · exact hwhole
    · exact fun _ _ => rfl
    · nofun
    · intro index hrejected hkept
      rw [hkept] at hrejected
      cases hrejected

/-- Scratch space for any layout, after any operations, has as many rows and marks as the layout.  Its rows
are those of the last tensor that was decoded, its mask keeps the rows without a hit since the last wipe,
and the survivors are these rows in ascending order.  Every further operation leaves all of it as it was if
it fails, and only one that clears the mask revives a row. -/
theorem scratch_keeps_its_record (layout : Layout) (operations : List Operation) :
    Kept layout ((Working.mk (.ofLayout layout) []).operateAll operations).1
        ((Working.mk (.ofLayout layout) []).operateAll operations).2 ∧
      ∀ operation, Changes operation ((Working.mk (.ofLayout layout) []).operateAll operations).2 :=
  ⟨((inOrder_ofLayout layout).operateAll operations).kept, fun operation => changes_operate operation _⟩

end FrameDetect.Detect
