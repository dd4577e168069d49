import FrameDetect.Detect.Detection
import FrameDetect.Proofs.Detect.Greedy

/-!
# Scratch space written in place

The detection pipeline takes scratch space and returns other scratch space.  A program that owns one piece
of scratch space writes its rows and its marks one by one, and if a precondition turns out to be broken
what was written before stays written.  Here each write is a step of its own, and every mark that is
made is written down.  The steps come to what the pipeline comes to, and no precondition breaks between two
writes.
-/

namespace FrameDetect.Detect

open FrameDetect.Tensor (View)

/-- What is done to a mask. -/
inductive Mark where
  /-- Every rejection is taken back. -/
  | wipe
  /-- A row is rejected. -/
  | hit (index : Nat)
deriving Repr, DecidableEq

/-- The mask with one more mark. -/
def Mark.apply (mask : Mask) : Mark → Mask
  | .wipe => mask.reset
  | .hit index => mask.reject index

/-- Scratch space in use, and all marks that were made on its mask, the first one first. -/
structure Working where
  scratch : Scratch
  marks : List Mark

def Working.mark (w : Working) (m : Mark) : Working :=
  ⟨{ w.scratch with mask := m.apply w.scratch.mask }, w.marks ++ [m]⟩

def Working.setRow (w : Working) (index : Nat) (row : Row) : Working :=
  { w with scratch := { w.scratch with rows := w.scratch.rows.setIfInBounds index row } }

/-- Steps on scratch space, which keep what they have written if they fail. -/
def InPlace (α : Type) : Type := Working → Except Fault α × Working

instance : Monad InPlace := inferInstanceAs (Monad (ExceptT Fault (StateM Working)))

namespace InPlace

variable {α β : Type}

/-! ## Steps -/

/-- The scratch space as it is. -/
def scratch : InPlace Scratch := fun w => (.ok w.scratch, w)

def fail (fault : Fault) : InPlace α := fun w => (.error fault, w)

/-- What may fail without any writing. -/
def ofExcept : Except Fault α → InPlace α
  | .ok a => pure a
  | .error fault => fail fault

/-- Writes a row that is there. -/
def writeRow (index : Nat) (row : Row) : InPlace Unit := fun w =>
  if index < w.scratch.rows.size then (.ok (), w.setRow index row)
  else (.error (.outOfBounds w.scratch.rows.size index), w)

def reset : InPlace Unit := fun w => (.ok (), w.mark .wipe)

def invalidate (index : Nat) : InPlace Unit := fun w =>
  if index < w.scratch.mask.size then (.ok (), w.mark (.hit index))
  else (.error (.outOfBounds w.scratch.mask.size index), w)

/-- Whether a row of the mask is not rejected. -/
def isValid (index : Nat) : InPlace Bool := fun w => ofExcept (w.scratch.mask.isValid index) w

/-- Writes `count` rows of a tensor, from an index on. -/
def writeRows (view : View) : Nat → Nat → InPlace Unit
  | _, 0 => pure ()
  | index, count + 1 => do
    let i ← ofExcept (view.rowIndex index)
    writeRow index (view.row i)
    writeRows view (index + 1) count

/-- Replaces the rows by those of a tensor with as many. -/
def decode (view : View) : InPlace Unit := do
  let s ← scratch
  if view.rows = s.rows.size then writeRows view 0 s.rows.size else fail .rowCountMismatch

/-- Rejects rows below the threshold, the first of `rows` having the given index. -/
def rejectBelow (threshold : Float32) : Nat → List Row → InPlace Unit
  | _, [] => pure ()
  | index, row :: rest => do
    if row.objectness < threshold then invalidate index
    rejectBelow threshold (index + 1) rest

/-- Takes every rejection back, then rejects the rows below the threshold. -/
def filter (threshold : Float32) : InPlace Unit := do
  let s ← scratch
  if s.rows.size = s.mask.size then
    reset
    rejectBelow threshold 0 s.rows.toList
  else fail .maskMismatch

/-- Compares row `i` with the rows from `j` on, and counts the rejections. -/
def sweep (threshold : Float32) (tie : TieBreak) (i : Nat) (first : Row) : Nat → List Row → InPlace Nat
  | _, [] => pure 0
  | j, second :: rest => do
    if (← isValid j) && conflicts threshold first second then
      if secondWins tie first second then
        invalidate i
        return 1
      else
        invalidate j
        let count ← sweep threshold tie i first (j + 1) rest
        return count + 1
    else sweep threshold tie i first (j + 1) rest

/-- Compares row `i` with those after it, unless it is rejected. -/
def turn (threshold : Float32) (tie : TieBreak) (i : Nat) (first : Row) (rest : List Row) :
    InPlace Nat := do
  if ← isValid i then sweep threshold tie i first (i + 1) rest else return 0

/-- Compares each row from `i` on with those after it, and counts the rejections. -/
def suppressFrom (threshold : Float32) (tie : TieBreak) : Nat → List Row → InPlace Nat
  | _, [] => pure 0
  | i, first :: rest => do
    let count ← turn threshold tie i first rest
    let more ← suppressFrom threshold tie (i + 1) rest
    return count + more

/-- Rejects overlapping rows, and counts the rows it rejects. -/
def suppress (threshold : Float32) (tie : TieBreak) : InPlace Nat := do
  let s ← scratch
  if s.rows.size = s.mask.size then suppressFrom threshold tie 0 s.rows.toList
  else fail .maskMismatch

/-- The surviving rows as detections, which are only read. -/
def resolve (view : View) : InPlace (List Detection) := do
  let s ← scratch
  ofExcept (s.resolve view)

/-! ## One step after the other -/

variable {x : InPlace α} {f : α → InPlace β} {a : α} {w w' : Working}

theorem bind_of_ok (h : x w = (.ok a, w')) : (x >>= f) w = f a w' := by
  change (match x w with | (r, w') => ExceptT.bindCont (m := StateM Working) f r w') = _
  rw [h]
  rfl

end InPlace

/-! ## Marks -/

@[simp] theorem Mark.size_apply (mask : Mask) (m : Mark) : (m.apply mask).size = mask.size := by
  cases m with
  | wipe => exact mask.size_reset
  | hit index => exact mask.size_reject index

theorem Mark.size_foldl_apply (marks : List Mark) (mask : Mask) :
    (marks.foldl Mark.apply mask).size = mask.size := by
  induction marks generalizing mask with
  | nil => rfl
  | cons m rest ih => rw [List.foldl_cons, ih, size_apply]

/-- From one moment to a later one, only marks are made. -/
structure Marked (w w' : Working) (new : List Mark) : Prop where
  rows : w'.scratch.rows = w.scratch.rows
  mask : w'.scratch.mask = new.foldl Mark.apply w.scratch.mask
  marks : w'.marks = w.marks ++ new

namespace Marked

variable {w w' w'' : Working} {xs ys : List Mark}

theorem refl (w : Working) : Marked w w [] := ⟨rfl, rfl, (List.append_nil _).symm⟩

theorem single (w : Working) (m : Mark) : Marked w (w.mark m) [m] := ⟨rfl, rfl, rfl⟩

theorem trans (h : Marked w w' xs) (h' : Marked w' w'' ys) : Marked w w'' (xs ++ ys) := by
  refine ⟨h'.rows.trans h.rows, ?_, ?_⟩
  · rw [h'.mask, h.mask, List.foldl_append]
  · rw [h'.marks, h.marks, List.append_assoc]

theorem size (h : Marked w w' xs) : w'.scratch.mask.size = w.scratch.mask.size := by
  rw [h.mask, Mark.size_foldl_apply]

end Marked

/-- Rows of a mask that are rejected one after the other, each of which was kept until then. -/
def Rejects : Mask → List Nat → Prop
  | _, [] => True
  | mask, index :: rest => mask.keeps index = true ∧ Rejects (mask.reject index) rest

theorem Rejects.append {mask : Mask} {xs ys : List Nat} (h : Rejects mask xs)
    (h' : Rejects ((xs.map Mark.hit).foldl Mark.apply mask) ys) : Rejects mask (xs ++ ys) := by
  induction xs generalizing mask with
  | nil => exact h'
  | cons index rest ih => exact ⟨h.1, ih h.2 h'⟩

/-- No row is rejected twice, and each was kept in the beginning. -/
theorem Rejects.nodup {mask : Mask} {hits : List Nat} (h : Rejects mask hits) :
    hits.Nodup ∧ ∀ index ∈ hits, mask.keeps index = true := by
  induction hits generalizing mask with
  | nil => exact ⟨List.nodup_nil, nofun⟩
  | cons index rest ih =>
    obtain ⟨hfirst, hrest⟩ := h
    obtain ⟨hnodup, hkept⟩ := ih hrest
    have hne : index ∉ rest := by
      intro hmem
      have := hkept index hmem
      rw [Mask.keeps_reject_self] at this
      cases this
    refine ⟨List.nodup_cons.2 ⟨hne, hnodup⟩, List.forall_mem_cons.2 ⟨hfirst, fun k hk => ?_⟩⟩
    have hki : k ≠ index := fun same => hne (same ▸ hk)
    rw [← Mask.keeps_reject_of_ne mask hki]
    exact hkept k hk

namespace InPlace

variable {threshold : Float32} {tie : TieBreak} {w : Working} {i j : Nat}

theorem scratch_eq (w : Working) : scratch w = (.ok w.scratch, w) := rfl

theorem isValid_eq (h : i < w.scratch.mask.size) : isValid i w = (.ok (w.scratch.mask.keeps i), w) := by
  rw [isValid, Mask.isValid, if_pos h]
  rfl

theorem invalidate_eq (h : i < w.scratch.mask.size) : invalidate i w = (.ok (), w.mark (.hit i)) :=
  if_pos h

/-! ## Comparing and rejecting -/

/-- A sweep in place comes to what a sweep comes to, and its marks are as many as it counts. -/
theorem sweep_runs {first : Row} {rest : List Row} (hi : w.scratch.mask.keeps i = true) (hij : i < j)
    (hfit : j + rest.length ≤ w.scratch.mask.size) :
    ∃ hits w', sweep threshold tie i first j rest w = (.ok hits.length, w') ∧
      Marked w w' (hits.map .hit) ∧ Rejects w.scratch.mask hits ∧
      Detect.sweep threshold tie i first j rest w.scratch.mask = (hits.length, w'.scratch.mask) := by
  induction rest generalizing j w with
  | nil => exact ⟨[], w, rfl, .refl w, trivial, rfl⟩
  | cons second rest ih =>
    rw [List.length_cons] at hfit
    have hj : j < w.scratch.mask.size := by omega
    rw [sweep, bind_of_ok (isValid_eq hj)]
    cases hc : w.scratch.mask.keeps j && conflicts threshold first second with
    | false =>
      rw [sweep_of_apart rest hc]
      exact ih hi (by omega) (by omega)
    | true =>
      obtain ⟨hk, -⟩ := Bool.and_eq_true_iff.1 hc
      rw [Detect.sweep, if_pos hc]
      cases hw : secondWins tie first second with
      | true =>
        have hsize : i < w.scratch.mask.size := by omega
        refine ⟨[i], w.mark (.hit i), ?_, .single w (.hit i), ⟨hi, trivial⟩, rfl⟩
        exact bind_of_ok (invalidate_eq hsize)
      | false =>
        -- row `j` is behind row `i`, so that the sweep goes on with row `i` still valid
        have hi' : (w.mark (.hit j)).scratch.mask.keeps i = true :=
          (Mask.keeps_reject_of_ne _ (Nat.ne_of_lt hij)).trans hi
        have hfit' : j + 1 + rest.length ≤ (w.mark (.hit j)).scratch.mask.size := by
          change _ ≤ (w.scratch.mask.reject j).size
          rw [Mask.size_reject]
          omega
        obtain ⟨hits, w', hrun, hmarked, hrejects, hsame⟩ := ih hi' (by omega) hfit'
        refine ⟨j :: hits, w', ?_, (Marked.single w (.hit j)).trans hmarked, ⟨hk, hrejects⟩, ?_⟩
        · exact (bind_of_ok (invalidate_eq hj)).trans (bind_of_ok hrun)
        · have hsame' : Detect.sweep threshold tie i first (j + 1) rest (w.scratch.mask.reject j) =
              (hits.length, w'.scratch.mask) := hsame
          simp only [hsame', Bool.false_eq_true, if_false, List.length_cons]

theorem turn_runs {first : Row} {rest : List Row} (hfit : i + 1 + rest.length ≤ w.scratch.mask.size) :
    ∃ hits w', turn threshold tie i first rest w = (.ok hits.length, w') ∧
      Marked w w' (hits.map .hit) ∧ Rejects w.scratch.mask hits ∧
      (if w.scratch.mask.keeps i then Detect.sweep threshold tie i first (i + 1) rest w.scratch.mask
        else (0, w.scratch.mask)) = (hits.length, w'.scratch.mask) := by
  have hi : i < w.scratch.mask.size := by omega
  rw [turn, bind_of_ok (isValid_eq hi)]
  cases hk : w.scratch.mask.keeps i with
  | false => exact ⟨[], w, rfl, .refl w, trivial, rfl⟩
  | true => exact sweep_runs hk (Nat.lt_succ_self i) hfit

theorem suppressFrom_runs (threshold : Float32) (tie : TieBreak) {rows : List Row}
    (hfit : i + rows.length ≤ w.scratch.mask.size) :
    ∃ hits w', suppressFrom threshold tie i rows w = (.ok hits.length, w') ∧
      Marked w w' (hits.map .hit) ∧ Rejects w.scratch.mask hits ∧
      Detect.suppressFrom threshold tie i rows w.scratch.mask = (hits.length, w'.scratch.mask) := by
  induction rows generalizing i w with
  | nil => exact ⟨[], w, rfl, .refl w, trivial, rfl⟩
  | cons first rest ih =>
    rw [List.length_cons] at hfit
    have hturn : i + 1 + rest.length ≤ w.scratch.mask.size := by omega
    obtain ⟨hits, w', hrun, hmarked, hrejects, hsame⟩ := turn_runs hturn
    rw [← hmarked.size] at hturn
    obtain ⟨more, w'', hrun', hmarked', hrejects', hsame'⟩ := ih hturn
    refine ⟨hits ++ more, w'', ?_, ?_, ?_, ?_⟩
    · rw [suppressFrom, bind_of_ok hrun, bind_of_ok hrun', List.length_append]
      rfl
    · rw [List.map_append]
      exact hmarked.trans hmarked'
    · exact hrejects.append (hmarked.mask ▸ hrejects')
    · simp only [Detect.suppressFrom, hsame, hsame', List.length_append]

/-- The rows below a threshold, of which the first of all has the given index. -/
def below (threshold : Float32) (index : Nat) (rows : List Row) : List Nat :=
  ((rows.zipIdx index).filter fun entry => decide (entry.1.objectness < threshold)).map Prod.snd

theorem rejectBelow_runs (threshold : Float32) {rows : List Row} (hfit : i + rows.length ≤ w.scratch.mask.size) :
    ∃ w', rejectBelow threshold i rows w = (.ok (), w') ∧
      Marked w w' ((below threshold i rows).map .hit) ∧
      Detect.rejectBelow threshold i rows w.scratch.mask = w'.scratch.mask := by
  induction rows generalizing i w with
  | nil => exact ⟨w, rfl, .refl w, rfl⟩
  | cons row rest ih =>
    rw [List.length_cons] at hfit
    by_cases hlow : row.objectness < threshold
    · have hi : i < w.scratch.mask.size := by omega
      have hfit' : i + 1 + rest.length ≤ (w.mark (.hit i)).scratch.mask.size := by
        rw [(Marked.single w (.hit i)).size]
        omega
      obtain ⟨w', hrun, hmarked, hsame⟩ := ih hfit'
      refine ⟨w', ?_, ?_, ?_⟩
      · rw [rejectBelow, if_pos hlow]
        exact (bind_of_ok (invalidate_eq hi)).trans hrun
      · have hbelow : below threshold i (row :: rest) = i :: below threshold (i + 1) rest := by
          simp [below, List.zipIdx_cons, hlow]
        rw [hbelow]
        exact (Marked.single w (.hit i)).trans hmarked
      · rw [Detect.rejectBelow, if_pos hlow]
        exact hsame
    · obtain ⟨w', hrun, hmarked, hsame⟩ := ih (i := i + 1) (w := w) (by omega)
      refine ⟨w', ?_, ?_, ?_⟩
      · rw [rejectBelow, if_neg hlow]
        exact hrun
      · have hbelow : below threshold i (row :: rest) = below threshold (i + 1) rest := by
          simp [below, List.zipIdx_cons, hlow]
        rw [hbelow]
        exact hmarked
      · rw [Detect.rejectBelow, if_neg hlow]
        exact hsame

/-! ## Writing rows -/

/-- Writing rows in place leaves those before the first one as they are. -/
theorem writeRows_runs {view : View} {index count : Nat} (hall : index + count = view.rows)
    (hsize : w.scratch.rows.size = view.rows) :
    ∃ rows, writeRows view index count w = (.ok (), { w with scratch := { w.scratch with rows } }) ∧
      rows.size = view.rows ∧
      ∀ k (hk : k < view.rows), rows[k]? = if index ≤ k then some (view.row ⟨k, hk⟩) else w.scratch.rows[k]? := by
  induction count generalizing index w with
  | zero =>
    refine ⟨w.scratch.rows, rfl, hsize, fun k hk => ?_⟩
    rw [if_neg (by omega)]
  | succ count ih =>
    have hi : index < view.rows := by omega
    have hthere : index < w.scratch.rows.size := by omega
    -- neither check can fail: the row is there in the tensor and in the scratch space
    have hread : ofExcept (view.rowIndex index) w = (.ok ⟨index, hi⟩, w) := by
      rw [View.rowIndex, dif_pos hi]
      rfl
    have hwrite : writeRow index (view.row ⟨index, hi⟩) w =
        (.ok (), w.setRow index (view.row ⟨index, hi⟩)) := if_pos hthere
    have hnext : index + 1 + count = view.rows := by omega
    have hsize' : (w.setRow index (view.row ⟨index, hi⟩)).scratch.rows.size = view.rows :=
      Array.size_setIfInBounds.trans hsize
    obtain ⟨rows, hrun, hrows, hrow⟩ := ih hnext hsize'
    refine ⟨rows, ?_, hrows, fun k hk => ?_⟩
    · rw [writeRows, bind_of_ok hread, bind_of_ok hwrite]
      exact hrun
    · rw [hrow k hk]
      rcases Nat.lt_trichotomy k index with hlt | rfl | hgt
      · rw [if_neg (by omega), if_neg (by omega)]
        exact Array.getElem?_setIfInBounds_ne (Nat.ne_of_gt hlt)
      · rw [if_neg (by omega), if_pos (Nat.le_refl k)]
        simp [Working.setRow, hthere]
      · rw [if_pos (by omega), if_pos (by omega)]

theorem decode_eq {view : View} (h : view.rows = w.scratch.rows.size) :
    decode view w = (.ok (), { w with scratch := { w.scratch with rows := Array.ofFn view.row } }) := by
  have hall : 0 + w.scratch.rows.size = view.rows := by omega
  obtain ⟨rows, hrun, hsize, hrow⟩ := writeRows_runs hall h.symm
  have hrows : rows = Array.ofFn view.row := by
    apply Array.ext
    · rw [hsize, Array.size_ofFn]
    · intro k hk _
      rw [← Option.some_inj, ← Array.getElem?_eq_getElem, hrow k (hsize ▸ hk), if_pos (Nat.zero_le k),
        Array.getElem_ofFn]
  rw [decode, bind_of_ok (scratch_eq w), if_pos h, hrun, hrows]

theorem decode_eq_of_ne {view : View} (h : view.rows ≠ w.scratch.rows.size) :
    decode view w = (.error .rowCountMismatch, w) := by
  rw [decode, bind_of_ok (scratch_eq w), if_neg h]
  rfl

/-! ## Whole passes -/

theorem filter_runs (threshold : Float32) (h : w.scratch.rows.size = w.scratch.mask.size) :
    ∃ w', filter threshold w = (.ok (), w') ∧
      Marked w w' (.wipe :: (below threshold 0 w.scratch.rows.toList).map .hit) ∧
      filterConfidence w.scratch.rows threshold w.scratch.mask = .ok w'.scratch.mask := by
  have hfit : 0 + w.scratch.rows.toList.length ≤ (w.mark .wipe).scratch.mask.size := by
    rw [(Marked.single w .wipe).size, Array.length_toList]
    omega
  obtain ⟨w', hrun, hmarked, hsame⟩ := rejectBelow_runs threshold hfit
  refine ⟨w', ?_, (Marked.single w .wipe).trans hmarked, ?_⟩
  · rw [filter, bind_of_ok (scratch_eq w), if_pos h]
    exact (bind_of_ok rfl).trans hrun
  · rw [filterConfidence, if_pos h]
    exact congrArg Except.ok hsame

theorem suppress_runs (threshold : Float32) (tie : TieBreak)
    (h : w.scratch.rows.size = w.scratch.mask.size) :
    ∃ hits w', suppress threshold tie w = (.ok hits.length, w') ∧ Marked w w' (hits.map .hit) ∧
      Rejects w.scratch.mask hits ∧
      Detect.suppress w.scratch.rows threshold tie w.scratch.mask =
        .ok (hits.length, w'.scratch.mask) := by
  have hfit : 0 + w.scratch.rows.toList.length ≤ w.scratch.mask.size := by
    rw [Array.length_toList]
    omega
  obtain ⟨hits, w', hrun, hmarked, hrejects, hsame⟩ := suppressFrom_runs threshold tie hfit
  refine ⟨hits, w', ?_, hmarked, hrejects, ?_⟩
  · rw [suppress, bind_of_ok (scratch_eq w), if_pos h, hrun]
  · rw [Detect.suppress, if_pos h, hsame]

theorem filter_eq_of_ne (threshold : Float32) (h : w.scratch.rows.size ≠ w.scratch.mask.size) :
    filter threshold w = (.error .maskMismatch, w) := by
  rw [filter, bind_of_ok (scratch_eq w), if_neg h]
  rfl

theorem suppress_eq_of_ne (threshold : Float32) (tie : TieBreak)
    (h : w.scratch.rows.size ≠ w.scratch.mask.size) :
    suppress threshold tie w = (.error .maskMismatch, w) := by
  rw [suppress, bind_of_ok (scratch_eq w), if_neg h]
  rfl

end InPlace

end FrameDetect.Detect
