import FrameDetect.Text.Utf8

/-!
# Percent encoding

Characters that may not stand in a part of a URL are written as the codes of their bytes.  Which
characters these are depends on the part.
-/

namespace FrameDetect.Url

/-- A digit of a code. -/
def hexDigit (n : Nat) : Char := (Nat.digitChar n).toUpper

/-- The code of a byte. -/
def byteCode (b : UInt8) : List Char := ['%', hexDigit (b.toNat / 16), hexDigit (b.toNat % 16)]

/-- The bytes of a character in UTF-8. -/
def charBytes (c : Char) : List UInt8 := (String.singleton c).toUTF8.toList

/-- Control characters and everything beyond ASCII are always encoded. -/
def isControl (c : Char) : Bool := c.toNat < 0x20 || 0x7E < c.toNat

/-- Encodes the characters of a text that are in a set, and those that always are. -/
def encode (set : List Char) (cs : List Char) : List Char :=
  cs.flatMap fun c =>
    if isControl c || set.contains c then (charBytes c).flatMap byteCode else [c]

/-- The set of a fragment. -/
def fragmentSet : List Char := [' ', '"', '<', '>', '\x60']

/-- The set of a path. -/
def pathSet : List Char := fragmentSet ++ ['#', '?', '\x7b', '\x7d']

/-- The set of a user name or a password. -/
def userSet : List Char := pathSet ++ ['/', ':', ';', '=', '@', '[', '\\', ']', '^', '|']

/-- The set of a query. -/
def querySet : List Char := [' ', '"', '#', '<', '>']

/-- The set of a query where the scheme is special. -/
def specialQuerySet : List Char := querySet ++ ['\x27']

/-- The value of a hexadecimal digit. -/
def hexValue? (b : UInt8) : Option UInt8 :=
  if 0x30 ≤ b ∧ b ≤ 0x39 then some (b - 0x30)
  else if 0x41 ≤ b ∧ b ≤ 0x46 then some (b - 0x37)
  else if 0x61 ≤ b ∧ b ≤ 0x66 then some (b - 0x57)
  else none

/-- The bytes that a text with codes stands for.  A percent sign without two digits stands for
itself. -/
def decode : List UInt8 → List UInt8
  | 0x25 :: high :: low :: rest =>
    match hexValue? high, hexValue? low with
    | some h, some l => (16 * h + l) :: decode rest
    | _, _ => 0x25 :: decode (high :: low :: rest)
  | b :: rest => b :: decode rest
  | [] => []

end FrameDetect.Url
