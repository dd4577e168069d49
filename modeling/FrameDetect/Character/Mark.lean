import FrameDetect.Character.Table

/-!
# Marks

Characters that combine with the one before them: those that take no room of their own, and those that
do.
-/

namespace FrameDetect.Character

/-- The lengths of the runs of codes from zero on, alternately of other characters and of marks that
take no room. -/
def nonspacingRuns : List Nat := [
  768, 113, 274, 8, 262, 45, 1, 1, 1, 2, 1, 2, 1, 9, 64, 11, 48, 21, 16, 1, 101, 8, 1, 6, 2, 2, 1,
  4, 35, 1, 30, 29, 89, 11, 58, 9, 9, 1, 24, 4, 1, 9, 1, 3, 1, 7, 41, 5, 57, 9, 42, 57, 55, 1, 1,
  1, 4, 8, 4, 1, 3, 15, 2, 2, 29, 1, 58, 1, 4, 6, 6, 1, 20, 4, 24, 5, 57, 2, 3, 27, 20, 2, 3, 1,
  11, 2, 57, 1, 4, 8, 4, 3, 18, 4, 20, 8, 58, 1, 2, 1, 1, 6, 6, 10, 11, 4, 28, 1, 61, 1, 12, 3,
  48, 1, 3, 1, 55, 1, 1, 3, 5, 18, 10, 4, 27, 1, 58, 1, 2, 1, 6, 1, 5, 9, 13, 4, 26, 2, 57, 2, 4,
  5, 7, 1, 20, 4, 27, 1, 72, 5, 3, 6, 89, 1, 2, 11, 8, 8, 98, 1, 2, 9, 11, 8, 72, 2, 27, 1, 1, 1,
  1, 1, 55, 14, 1, 5, 1, 2, 5, 49, 8, 1, 102, 4, 1, 6, 1, 2, 2, 2, 25, 2, 4, 3, 16, 4, 13, 1, 2,
  2, 6, 1, 15, 1, 703, 3, 946, 3, 29, 2, 30, 14, 18, 14, 55, 7, 8, 1, 2, 11, 9, 3, 165, 2, 34, 1,
  118, 3, 4, 2, 9, 1, 6, 7, 215, 2, 2, 3, 56, 1, 1, 9, 1, 1, 2, 8, 6, 13, 48, 84, 48, 1, 1, 5, 1,
  1, 5, 1, 40, 9, 12, 2, 32, 4, 2, 2, 1, 3, 56, 1, 1, 2, 3, 1, 1, 3, 58, 8, 2, 5, 149, 3, 1, 13,
  1, 7, 4, 1, 6, 1, 3, 2, 198, 65, 719, 52, 3051, 4, 140, 1, 96, 32, 554, 4, 107, 4, 30162, 4, 1,
  10, 32, 2, 80, 2, 272, 1, 3, 1, 4, 1, 25, 2, 5, 4, 148, 10, 18, 18, 13, 1, 38, 8, 25, 11, 46, 3,
  48, 1, 2, 4, 2, 2, 39, 1, 67, 6, 2, 2, 2, 11, 3, 1, 8, 1, 47, 1, 51, 1, 1, 3, 2, 2, 5, 2, 1, 1,
  42, 2, 8, 11, 228, 1, 2, 1, 4, 3, 20270, 148, 622, 37, 952, 131, 96, 1, 149, 10, 1665, 15, 40,
  8, 165, 6, 569, 12, 57, 5, 317, 2, 77, 6, 70, 11, 49, 4, 123, 1, 54, 15, 41, 1, 2, 2, 10, 3, 49,
  4, 2, 2, 7, 14, 48, 3, 36, 5, 1, 9, 61, 1, 12, 2, 52, 9, 10, 4, 2, 1, 95, 3, 2, 1, 1, 2, 6, 1,
  2, 63, 95, 1, 3, 13, 16, 2, 57, 2, 3, 1, 37, 26, 59, 7, 12, 1, 1, 1, 1, 1, 14, 31, 56, 8, 2, 3,
  1, 1, 23, 1, 84, 6, 1, 1, 4, 2, 1, 2, 238, 6, 4, 2, 1, 2, 27, 36, 51, 8, 2, 1, 1, 2, 106, 1, 1,
  1, 2, 6, 1, 1, 101, 1, 1, 1, 2, 4, 1, 9, 255, 9, 1, 2, 256, 2, 1, 1, 4, 1, 144, 8, 4, 1, 32, 10,
  40, 6, 2, 4, 8, 9, 1, 6, 2, 3, 46, 13, 1, 2, 198, 1, 1, 3, 1, 1, 201, 14, 1, 1, 82, 23, 1, 7, 1,
  2, 1, 75, 49, 21, 1, 9, 64, 3, 2, 1, 1, 1, 347, 2, 11, 2, 52, 8, 2, 1, 1, 1, 23, 86, 5264, 1, 6,
  25, 11454, 12, 3, 3, 2496, 5, 59, 7, 1048, 1, 63, 4, 81, 12, 19629, 2, 4705, 80, 535, 3, 17, 8,
  2, 7, 30, 4, 148, 3, 1979, 55, 4, 50, 8, 1, 14, 1, 22, 1125, 256, 256, 48, 7, 375, 18, 44, 4,
  508, 4, 254, 2, 243, 1, 2, 1, 7, 2, 5, 9, 466, 82, 34, 7, 988853]

/-- The lengths of the runs of codes from zero on, alternately of other characters and of marks that
take room. -/
def spacingRuns : List Nat := [
  2307, 1, 55, 1, 2, 3, 8, 4, 1, 2, 50, 3, 57, 3, 6, 6, 10, 9, 35, 2, 57, 3, 66, 2, 57, 3, 8, 4,
  53, 3, 57, 1, 1, 1, 6, 6, 10, 8, 95, 2, 1, 12, 10, 15, 27, 3, 61, 5, 60, 2, 58, 1, 1, 6, 1, 5,
  9, 7, 23, 13, 2, 2, 58, 3, 5, 7, 10, 1, 42, 3, 74, 3, 6, 14, 12, 2, 330, 2, 63, 1, 171, 2, 4, 1,
  6, 1, 2, 2, 25, 2, 10, 3, 2, 7, 21, 2, 2, 6, 2, 1, 10, 3, 1656, 10, 21, 1, 129, 1, 7, 8, 1, 2,
  346, 4, 2, 9, 1, 6, 224, 2, 58, 1, 1, 1, 9, 1, 1, 2, 8, 6, 145, 1, 48, 1, 5, 1, 1, 5, 1, 2, 61,
  1, 30, 1, 4, 2, 2, 1, 60, 1, 2, 3, 1, 1, 3, 10, 40, 8, 8, 2, 171, 1, 21, 1, 4918, 2, 30707, 2,
  2, 1, 88, 2, 50, 16, 142, 13, 36, 1, 48, 2, 4, 2, 2, 3, 110, 2, 2, 2, 24, 3, 43, 1, 1, 1, 109,
  1, 2, 2, 5, 1, 237, 2, 1, 2, 1, 2, 1, 1, 25619, 1, 1, 1, 127, 1, 45, 3, 4, 2, 115, 1, 24, 2, 59,
  1, 48, 3, 9, 2, 13, 1, 93, 3, 3, 2, 1, 1, 170, 3, 31, 3, 57, 2, 1, 15, 7, 6, 5, 4, 82, 3, 7, 12,
  1, 1, 101, 3, 8, 2, 3, 1, 106, 3, 6, 1, 1, 4, 2, 1, 237, 3, 6, 4, 2, 1, 113, 3, 8, 2, 1, 1, 109,
  1, 1, 2, 6, 1, 103, 1, 1, 2, 4, 1, 261, 3, 9, 1, 247, 11, 2, 1, 2, 1, 1, 1, 142, 3, 8, 4, 4, 28,
  57, 1, 29, 2, 62, 1, 201, 1, 3, 1, 1, 89, 111, 1, 14, 1, 106, 1, 7, 1, 2, 1, 213, 6, 3, 2, 1, 1,
  350, 2, 12, 1, 48, 2, 8, 2, 1, 1, 16872, 3, 3620, 62, 97, 2, 24947, 2, 6, 14, 994949]

/-- Whether a character combines with the one before it and takes no room. -/
def isNonspacing (c : Char) : Bool := inRuns false c.toNat nonspacingRuns

/-- Whether a character combines with the one before it. -/
def isMark (c : Char) : Bool := isNonspacing c || inRuns false c.toNat spacingRuns

end FrameDetect.Character
