import FrameDetect.Character.Decomposition
import FrameDetect.Character.Order

/-!
# Composed text

Texts that look alike have one composed form: all characters are taken apart, marks are put in order,
and what can be written as one character is.
-/

namespace FrameDetect.Character

/-- The syllable of a leading and a middle letter, or of a syllable and a trailing letter. -/
def syllable? (first second : Char) : Option Char :=
  let leading := first.toNat - firstLeading
  let middle := second.toNat - firstMiddle
  let syllable := first.toNat - firstSyllable
  let trailing := second.toNat - beforeTrailing
  if firstLeading ≤ first.toNat ∧ leading < leadingCount ∧ firstMiddle ≤ second.toNat ∧
      middle < middleCount then
    some (Char.ofNat (firstSyllable + (leading * middleCount + middle) * trailingCount))
  else if firstSyllable ≤ first.toNat ∧ syllable < leadingCount * middleCount * trailingCount ∧
      syllable % trailingCount = 0 ∧ beforeTrailing < second.toNat ∧ trailing < trailingCount then
    some (Char.ofNat (first.toNat + trailing))
  else none

/-- The character that two characters make.  No second part is in ASCII. -/
def composite? (first second : Char) : Option Char :=
  if second.toNat < 0x80 then none
  else match syllable? first second with
    | some syllable => some syllable
    | none =>
      (composites.find? fun composite =>
        composite.first == first && composite.second == second).map (·.whole)

/-- A text while it is composed, from the last character on: what is done, the last character that is
no mark, and the marks after it. -/
structure Composing where
  done : List Char
  base : Option Char
  marks : List Char

/-- The characters so far, from the last one on. -/
def Composing.all (s : Composing) : List Char := s.marks ++ s.base.toList ++ s.done

/-- Adds a character.  It joins the last one that is no mark, unless something stands between them that
keeps it away: a mark of its own class or of a greater one. -/
def Composing.add (s : Composing) (c : Char) : Composing :=
  let cls := combiningClass c
  let near := match s.marks with
    | [] => true
    | mark :: _ => combiningClass mark < cls
  match if near then s.base.bind (composite? · c) else none with
  | some whole => { s with base := some whole }
  | none =>
    if cls = 0 then { done := s.all, base := some c, marks := [] }
    else { s with marks := c :: s.marks }

/-- The composed form of a text. -/
def composed (cs : List Char) : List Char :=
  let apart := ordered (cs.flatMap decompose)
  (apart.foldl Composing.add ⟨[], none, []⟩).all.reverse

end FrameDetect.Character
