/-!
# Blank characters

The characters with the property `White_Space`, and text without them at its ends.
-/

namespace FrameDetect.Text

/-- Whether the character has the property `White_Space`. -/
def isBlank (c : Char) : Bool :=
  let n := c.toNat
  (9 ≤ n && n ≤ 13) || n == 32 || n == 0x85 || n == 0xA0 || n == 0x1680 ||
  (0x2000 ≤ n && n ≤ 0x200A) || n == 0x2028 || n == 0x2029 || n == 0x202F || n == 0x205F ||
  n == 0x3000

/-- The text from its first character that is not blank. -/
def dropBlank (cs : List Char) : List Char := cs.dropWhile isBlank

/-- The text between its first and last character that is not blank. -/
def trimBlank (cs : List Char) : List Char := (dropBlank (dropBlank cs).reverse).reverse

@[simp] theorem trimBlank_nil : trimBlank [] = [] := rfl

end FrameDetect.Text
