import FrameDetect.Character.Direction
import FrameDetect.Character.Joining
import FrameDetect.Domain.Mapping
import FrameDetect.Domain.Punycode

/-!
# Labels of domains

A domain is made of labels.  A label with characters beyond ASCII must not start with a mark, may have
characters that join or part letters only where this is seen, and must not become too long.  Where
anything in a domain is written from right to left, the order of every label must be plain.
-/

namespace FrameDetect.Domain

open FrameDetect.Character (Direction combiningClass direction isMark isTransparent joinsAfter joinsBefore)

/-- The characters that part letters and that join them. -/
def nonJoiner : Char := '\u200C'
def joiner : Char := '\u200D'

/-- The class of marks that take the vowel from the letter before them. -/
def vowelSignClass : Nat := 9

/-- Whether letters that would be joined stand around a place, given the text before it from its last
character on. -/
def isWithinJoined (before after : List Char) : Bool :=
  (before.find? (!isTransparent ·)).any joinsAfter && (after.find? (!isTransparent ·)).any joinsBefore

/-- Whether characters that join or part letters have an effect, given the text before them from its last
character on: after a mark that takes the vowel, and, for one that parts, between letters that would be
joined. -/
def joinersFit (before : List Char) : List Char → Bool
  | [] => true
  | c :: after =>
    let fits :=
      if c = nonJoiner ∨ c = joiner then
        before.head?.any (combiningClass · = vowelSignClass) ||
          (c = nonJoiner && isWithinJoined before after)
      else true
    fits && joinersFit (c :: before) after

/-- The greatest number of characters in a label with characters beyond ASCII. -/
def longestLabel : Nat := 1000

/-- Whether a label may stand in a domain. -/
def isLabel (label : List Char) : Bool :=
  label.all isAscii ||
    (!label.head?.any isMark && joinersFit [] label && label.length ≤ longestLabel)

/-- Whether the order of a label is plain: letters of one direction only, of which one comes first, and
a letter or a digit last, marks apart.  A label from right to left has digits of one kind only. -/
def isPlain (label : List Char) : Bool :=
  let directions := label.map direction
  let last := (directions.reverse.dropWhile (· == .mark)).head?
  match directions.head? with
  | some .leftToRight =>
    directions.all [.leftToRight, .digit, .neutral, .mark].contains &&
      last.any [Direction.leftToRight, .digit].contains
  | some .rightToLeft =>
    !directions.contains .leftToRight && !(directions.contains .digit && directions.contains .arabicDigit) &&
      last.any [Direction.rightToLeft, .digit, .arabicDigit].contains
  | _ => false

/-- Whether a character is written only in texts from right to left. -/
def isFromRight (c : Char) : Bool := [Direction.rightToLeft, .arabicDigit].contains (direction c)

/-- Whether the order of labels can be told. -/
def ordersFit (labels : List (List Char)) : Bool :=
  !labels.any (·.any isFromRight) || labels.all fun label => label.isEmpty || isPlain label

/-- The longest text in ASCII that is read as a label beyond ASCII, without its mark. -/
def longestText : Nat := 2000

/-- A label with its characters beyond ASCII, which may be given in ASCII.  In ASCII only a label in its
one form that needs it may be given. -/
def shownLabel? (label : List Char) : Option (List Char) :=
  if asciiMark.isPrefixOf label then
    let text := label.drop asciiMark.length
    if text.isEmpty ∨ text.getLast? = some '-' ∨ longestText < text.length then none
    else (readLabel? text).filter fun shown => !shown.all isAscii && normal? shown == some shown
  else some label

/-- A domain in ASCII, if it is one. -/
def ascii? (domain : List Char) : Option (List Char) := do
  let labels ← ((← normal? domain).splitOn '.').mapM shownLabel?
  if labels.all isLabel && ordersFit labels then
    some (['.'].intercalate (labels.map asciiLabel))
  else none

end FrameDetect.Domain
