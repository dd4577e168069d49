import FrameDetect.Character.Mark

/-!
# Joined letters

Letters that are joined to the letter before or after them, as in Arabic.
-/

namespace FrameDetect.Character

/-- The runs of letters that are joined on both sides. -/
def bothTable : String := "
  620, 626, 628, 62A 5, 633 D, 641 7, 649 2, 66E 2, 679 F, 69A 26, 6C1 2, 6CC, 6CE, 6D0 2, 6FA 3,
  6FF, 712 3, 71A 4, 71F 9, 729, 72B, 72D 2, 74E B, 75C F, 76D 4, 772, 775 3, 77A 6, 7CA 21, 841
  5, 848, 84A A, 855, 860, 862 4, 868, 886, 889 5, 88F 1B, 8AF 2, 8B3 6, 8BA F, 1807, 1820 59,
  1887 24, A840 32, 10AC0 5, 10AD3 4, 10AD8 5, 10ADE 3, 10AEB 4, 10B80, 10B82, 10B86 3, 10B8A 2,
  10B8D, 10B90, 10BAD 2, 10D01 21, 10D23, 10EC3 2, 10EC6 2, 10F30 3, 10F34 11, 10F51 3, 10F70 4,
  10F76 C, 10FB0, 10FB2 2, 10FB8, 10FBB 2, 10FBE 2, 10FC1, 10FC4, 10FCA, 1E922 22"

/-- The runs of letters that are joined to the letter before them. -/
def beforeTable : String := "
  622 4, 627, 629, 62F 4, 648, 671 3, 688 12, 6C0, 6C3 9, 6CD, 6CF, 6D2 2, 6D5, 6EE 2, 710, 715 5,
  71E, 728, 72A, 72C, 72F 1F, 759 3, 76B 2, 771, 773 2, 778 2, 840, 846 2, 849, 854, 856 3, 867,
  869 1A, 88E, 8AA 3, 8AE, 8B1 2, 8B9, 10AC5, 10AC7, 10AC9 2, 10ACE 5, 10ADD, 10AE1, 10AE4, 10AEF,
  10B81, 10B83 3, 10B89, 10B8C, 10B8E 2, 10B91, 10BA9 4, 10D22, 10EC2, 10F33, 10F54, 10F74 2,
  10FB4 3, 10FB9 2, 10FBD, 10FC2 2, 10FC9"

/-- The runs of letters that are joined to the letter after them. -/
def afterTable : String := "
  A872, 10ACD, 10AD7, 10D00, 10FCB"

/-- The runs of letters that are joined on both sides, on the side before, and on the side after. -/
def bothRuns : List Run := runs bothTable
def beforeRuns : List Run := runs beforeTable
def afterRuns : List Run := runs afterTable

/-- Whether letters are joined across a character. -/
def isTransparent (c : Char) : Bool := isNonspacing c || c.toNat = 0x1E94B

/-- Whether a letter is joined to the one before it. -/
def joinsBefore (c : Char) : Bool :=
  !isTransparent c && (bothRuns.any (·.contains c.toNat) || beforeRuns.any (·.contains c.toNat))

/-- Whether a letter is joined to the one after it. -/
def joinsAfter (c : Char) : Bool :=
  !isTransparent c && (bothRuns.any (·.contains c.toNat) || afterRuns.any (·.contains c.toNat))

end FrameDetect.Character
