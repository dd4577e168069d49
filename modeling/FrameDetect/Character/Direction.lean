import FrameDetect.Character.Mark

/-!
# Directions of characters

Whether a character is written from left to right or from right to left, where that matters for telling
in which order a text is read.
-/

namespace FrameDetect.Character

/-- The directions that characters have. -/
inductive Direction where
  | leftToRight
  | rightToLeft
  /-- A digit that is written from left to right in any text. -/
  | digit
  /-- A digit of a text that is written from right to left. -/
  | arabicDigit
  /-- A mark, which goes along with the character before it. -/
  | mark
  /-- Signs, which go along with what surrounds them. -/
  | neutral
deriving Repr, DecidableEq

/-- The runs of characters that are written from right to left. -/
def rightToLeftTable : String := "
  5BE 37, 608, 60B, 60D, 61B 30, 66D 69, 6E5 2, 6EE 2, 6FA FC, 7FA D0, FBB2 11, FE73, 10800 11C,
  10920 216, 10B40 1E4, 10D40 10, 10D6F 21, 10E80 48, 10F00 F7, 1E800 53E"

/-- The runs of digits. -/
def digitTable : String := "
  30 A, 6F0 A, 102E1 1B"

/-- The runs of digits in texts from right to left. -/
def arabicDigitTable : String := "
  660 A, 66B 2, 10D30 A, 10E60 1F"

/-- The runs of signs. -/
def neutralTable : String := "
  21 F, 3A 27, 7B 5D, F7, 2B9 2, 2C2 E, 2D2 1C, 2EF 11, 375, 3F6, 58A 6, 606 2, 609 2, 60C, 60E 2,
  66A, 6DE, 6E9, 7F6 4, 9F2 2, 9FB, AF1, BF3 8, C78 7, E3F, F3A 4, 1390 A, 1400, 169B 2, 17DB,
  17F0 1B, 1940 6, 19DE 22, 200C 142, 218A 1AC, 237B 1A, 2396 316, 26AD 153, 2900 300, 2CE5 6,
  2CF9 7, 2E00 205, 3008 19, 3030, 3037, 303D 3, 30A0, 30FB, 31C0 26, 4DC0 40, A490 37, A60D 3,
  A673 D, A700 22, A788, A828 4, A838 2, A874 4, AB6A 2, FBC3 284, 10101, 10140 4D, 10190 11,
  1091F, 10B39 7, 10D6E, 10ED0 9, 11052 14, 11660 D, 11FD5 1D, 16FE2, 1CC00 2F1, 1D1E9 5D, 1D300
  57, 1E2FF, 1EEF0 240, 1F16D 3, 1F1AD, 1F260 99B"

/-- Characters without room of their own that have a direction nevertheless. -/
def directedMarks : List Nat := [0xCBF, 0xCC6, 0x11A07, 0x11A08, 0x11C3F]

/-- The runs of characters by direction, without marks and what is written from left to right. -/
def directionRuns : List (Direction × List Run) :=
  [(.rightToLeft, runs rightToLeftTable), (.digit, runs digitTable),
    (.arabicDigit, runs arabicDigitTable), (.neutral, runs neutralTable)]

/-- The direction of a character that may stand in a domain. -/
def direction (c : Char) : Direction :=
  if isNonspacing c then (if directedMarks.contains c.toNat then .leftToRight else .mark)
  else match directionRuns.find? fun (_, runs) => runs.any (·.contains c.toNat) with
    | some (direction, _) => direction
    | none => .leftToRight

end FrameDetect.Character
