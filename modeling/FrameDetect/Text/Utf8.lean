/-!
# Text from bytes

Bytes that are no UTF-8 become replacement characters: one for each longest start of a character that
breaks off, and one for each byte that starts none.
-/

namespace FrameDetect.Text

/-- The character that stands for bytes that are no text. -/
def replacement : Char := '\uFFFD'

/-- What the first byte of a character tells: how many bytes follow, its own bits, and the range of
the byte after it. -/
def lead? (b : UInt8) : Option (Nat × Nat × UInt8 × UInt8) :=
  if b < 0x80 then some (0, b.toNat, 0x80, 0xBF)
  else if 0xC2 ≤ b ∧ b ≤ 0xDF then some (1, b.toNat - 0xC0, 0x80, 0xBF)
  else if b = 0xE0 then some (2, 0, 0xA0, 0xBF)
  else if b = 0xED then some (2, 0xD, 0x80, 0x9F)
  else if 0xE1 ≤ b ∧ b ≤ 0xEF then some (2, b.toNat - 0xE0, 0x80, 0xBF)
  else if b = 0xF0 then some (3, 0, 0x90, 0xBF)
  else if b = 0xF4 then some (3, 4, 0x80, 0x8F)
  else if 0xF1 ≤ b ∧ b ≤ 0xF3 then some (3, b.toNat - 0xF0, 0x80, 0xBF)
  else none

/-- A character that is being read: the bytes that are missing, the bits so far, and the range of the
next byte. -/
structure Pending where
  missing : Nat
  bits : Nat
  low : UInt8
  high : UInt8

/-- Starts a character with a byte, after the characters `done`, the latest first. -/
def startChar (done : List Char) (b : UInt8) : List Char × Option Pending :=
  match lead? b with
  | none => (replacement :: done, none)
  | some (0, bits, _, _) => (Char.ofNat bits :: done, none)
  | some (missing, bits, low, high) => (done, some ⟨missing, bits, low, high⟩)

/-- Takes the next byte. -/
def nextByte : List Char × Option Pending → UInt8 → List Char × Option Pending
  | (done, none), b => startChar done b
  | (done, some pending), b =>
    if pending.low ≤ b ∧ b ≤ pending.high then
      let bits := 64 * pending.bits + (b.toNat - 0x80)
      if pending.missing ≤ 1 then (Char.ofNat bits :: done, none)
      else (done, some ⟨pending.missing - 1, bits, 0x80, 0xBF⟩)
    else startChar (replacement :: done) b

/-- The text of bytes, with replacement characters where they are none. -/
def decodeLossy (bytes : List UInt8) : String :=
  let (done, pending) := bytes.foldl nextByte ([], none)
  String.ofList ((if pending.isSome then replacement :: done else done).reverse)

end FrameDetect.Text
