import FrameDetect.Text.Blank
import FrameDetect.Text.Lines
import Mathlib.Data.List.TakeWhile

/-!
# Trimmed text and its lines

Trimming takes the blank characters at both ends of a text and nothing else, so that more of them change nothing, and
text that has none is left alone.

A text is a line without a line feed, or such a line, a line feed and another text.  Its lines are read off in this
way, and what holds of all texts is proved in this way.
-/

namespace FrameDetect.Text

variable {cs blanks : List Char}

/-- Text of blank characters only. -/
def Blank (cs : List Char) : Prop := ∀ c ∈ cs, isBlank c = true

/-- Text that neither starts nor ends with a blank character. -/
structure Trimmed (cs : List Char) : Prop where
  head : ∀ c ∈ cs.head?, isBlank c = false
  last : ∀ c ∈ cs.getLast?, isBlank c = false

theorem blank_nil : Blank [] := by simp [Blank]

theorem Blank.reverse (h : Blank cs) : Blank cs.reverse := by
  intro c hc
  exact h c (List.mem_reverse.1 hc)

theorem Trimmed.reverse (h : Trimmed cs) : Trimmed cs.reverse := by
  constructor
  · simpa using h.last
  · simpa using h.head

theorem trimmed_of_forall (h : ∀ c ∈ cs, isBlank c = false) : Trimmed cs where
  head c hc := h c (List.mem_of_mem_head? hc)
  last c hc := h c (List.mem_of_mem_getLast? hc)

theorem not_isBlank_of_isDigit {c : Char} (h : c.isDigit = true) : isBlank c = false := by
  have hrange : 48 ≤ c.toNat ∧ c.toNat ≤ 57 := Char.isDigit_iff_toNat.1 h
  simp only [isBlank, Bool.or_eq_false_iff, Bool.and_eq_false_iff, decide_eq_false_iff_not, beq_eq_false_iff_ne]
  omega

/-! ## At the start -/

theorem dropBlank_append (h : Blank blanks) (cs : List Char) : dropBlank (blanks ++ cs) = dropBlank cs :=
  List.dropWhile_append_of_pos h

theorem dropBlank_eq_nil_iff : dropBlank cs = [] ↔ Blank cs := by
  exact List.dropWhile_eq_nil_iff

theorem dropBlank_suffix (cs : List Char) : dropBlank cs <:+ cs := List.dropWhile_suffix _

theorem isBlank_head_dropBlank (cs : List Char) {c : Char} (h : c ∈ (dropBlank cs).head?) : isBlank c = false := by
  have hnot := List.head?_dropWhile_not isBlank cs
  rw [dropBlank, Option.mem_def] at h
  rwa [h] at hnot

theorem dropBlank_eq_self (h : ∀ c ∈ cs.head?, isBlank c = false) : dropBlank cs = cs := by
  cases cs with
  | nil => rfl
  | cons c rest =>
    have hc : isBlank c = false := h c rfl
    simp [dropBlank, hc]

/-! ## At both ends -/

theorem trimBlank_append_left (h : Blank blanks) (cs : List Char) : trimBlank (blanks ++ cs) = trimBlank cs := by
  rw [trimBlank, dropBlank_append h, trimBlank]

theorem trimBlank_eq_nil_iff : trimBlank cs = [] ↔ Blank cs := by
  constructor
  · intro h
    have hrest : Blank (dropBlank cs) := by simpa using (dropBlank_eq_nil_iff.1 (List.reverse_eq_nil_iff.1 h)).reverse
    rw [← dropBlank_eq_nil_iff]
    cases hdrop : dropBlank cs with
    | nil => rfl
    | cons c rest =>
      -- the first character that is left is not blank
      have hc : isBlank c = false := isBlank_head_dropBlank cs (by simp [hdrop])
      have hblank := hrest c (by simp [hdrop])
      simp [hc] at hblank
  · intro h
    rw [trimBlank, dropBlank_eq_nil_iff.2 h]
    rfl

theorem trimBlank_append_right (h : Blank blanks) (cs : List Char) : trimBlank (cs ++ blanks) = trimBlank cs := by
  by_cases hcs : Blank cs
  · have hall : Blank (cs ++ blanks) := List.forall_mem_append.2 ⟨hcs, h⟩
    rw [trimBlank_eq_nil_iff.2 hall, trimBlank_eq_nil_iff.2 hcs]
  · have hdrop : dropBlank (cs ++ blanks) = dropBlank cs ++ blanks := by
      have hleft : ¬(dropBlank cs).isEmpty = true := by simpa [dropBlank_eq_nil_iff] using hcs
      exact List.dropWhile_append.trans (if_neg hleft)
    rw [trimBlank, hdrop, List.reverse_append, dropBlank_append h.reverse, trimBlank]

theorem isPrefix_trimBlank (cs : List Char) : trimBlank cs <+: dropBlank cs := by
  have hsuffix := dropBlank_suffix (dropBlank cs).reverse
  rwa [← List.reverse_prefix, List.reverse_reverse] at hsuffix

theorem isInfix_trimBlank (cs : List Char) : trimBlank cs <:+: cs :=
  (isPrefix_trimBlank cs).isInfix.trans (dropBlank_suffix cs).isInfix

theorem trimmed_trimBlank (cs : List Char) : Trimmed (trimBlank cs) := by
  constructor
  · intro c hc
    obtain ⟨rest, hrest⟩ := isPrefix_trimBlank cs
    refine isBlank_head_dropBlank cs ?_
    rw [← hrest, List.head?_append, hc]
    rfl
  · intro c hc
    rw [trimBlank, List.getLast?_reverse] at hc
    exact isBlank_head_dropBlank _ hc

theorem trimBlank_eq_self (h : Trimmed cs) : trimBlank cs = cs := by
  rw [trimBlank, dropBlank_eq_self h.head, dropBlank_eq_self h.reverse.head, List.reverse_reverse]

/-! ## Lines -/

variable {line rest : List Char}

/-- A text is looked at line by line. -/
theorem line_induction {P : List Char → Prop} (last : ∀ line, '\n' ∉ line → P line)
    (more : ∀ line rest, '\n' ∉ line → P rest → P (line ++ '\n' :: rest)) (cs : List Char) : P cs := by
  by_cases h : '\n' ∈ cs
  · obtain ⟨line, rest, hcs, hline⟩ := List.eq_append_cons_of_mem h
    have hshorter : rest.length < cs.length := by
      simp [hcs]
      omega
    rw [hcs]
    exact more line rest hline (line_induction last more rest)
  · exact last cs h
termination_by cs.length

theorem linesFrom_of_not_mem (done : List Char) (h : '\n' ∉ line) :
    linesFrom done line = if (done.reverse ++ line).isEmpty then [] else [done.reverse ++ line] := by
  induction line generalizing done with
  | nil => simp [linesFrom]
  | cons c line ih =>
    simp only [List.mem_cons, not_or] at h
    obtain ⟨hc, hline⟩ := h
    rw [linesFrom, if_neg (Ne.symm hc), ih (c :: done) hline]
    simp

theorem linesFrom_append (done : List Char) (h : '\n' ∉ line) (rest : List Char) :
    linesFrom done (line ++ '\n' :: rest) = withoutReturn (done.reverse ++ line) :: lines rest := by
  induction line generalizing done with
  | nil => simp [linesFrom, lines]
  | cons c line ih =>
    simp only [List.mem_cons, not_or] at h
    obtain ⟨hc, hline⟩ := h
    rw [List.cons_append, linesFrom, if_neg (Ne.symm hc), ih (c :: done) hline]
    simp

theorem lines_of_not_mem (h : '\n' ∉ line) : lines line = if line.isEmpty then [] else [line] :=
  linesFrom_of_not_mem [] h

theorem lines_append (h : '\n' ∉ line) (rest : List Char) :
    lines (line ++ '\n' :: rest) = withoutReturn line :: lines rest :=
  linesFrom_append [] h rest

/-- A carriage return at the end of a line is blank and trimmed anyway. -/
theorem trimBlank_withoutReturn (line : List Char) : trimBlank (withoutReturn line) = trimBlank line := by
  unfold withoutReturn
  split
  next rest h =>
    have hline : line = rest.reverse ++ ['\r'] := by simpa using congrArg List.reverse h
    have hreturn : Blank ['\r'] := by simp [Blank, isBlank]
    rw [hline, trimBlank_append_right hreturn]
  next => rfl

end FrameDetect.Text
