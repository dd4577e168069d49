import FrameDetect.Number.Rounding

/-!
# Reading integers

An integer is an optional sign and decimal digits.  The text is read from left to right: the first
character that is no digit, or the first digit that leaves the range, decides the fault.
-/

namespace FrameDetect.Text

open FrameDetect.Number (Range)

/-- Why a text is no integer of a range. -/
inductive IntegerFault where
  | empty
  | invalidDigit
  | tooLarge
  | tooSmall
deriving Repr, DecidableEq

def IntegerFault.message : IntegerFault → String
  | .empty => "cannot parse integer from empty string"
  | .invalidDigit => "invalid digit found in string"
  | .tooLarge => "number too large to fit in target type"
  | .tooSmall => "number too small to fit in target type"

/-- Integers of 64 bits with a sign. -/
def signed64 : Range := ⟨-9223372036854775808, 9223372036854775807⟩

/-- Integers of 32 bits without a sign. -/
def unsigned32 : Range := ⟨0, 4294967295⟩

/-- Integers of 64 bits without a sign. -/
def unsigned64 : Range := ⟨0, 18446744073709551615⟩

/-- The value of a decimal digit. -/
def digit? (c : Char) : Option Nat :=
  if c.isDigit then some (c.toNat - '0'.toNat) else none

/-- Continues the number `value` with digits, each added with the given sign. -/
def readDigits (range : Range) (sign value : Int) : List Char → Except IntegerFault Int
  | [] => .ok value
  | c :: rest =>
    match digit? c with
    | none => .error .invalidDigit
    | some d =>
      let next := 10 * value + sign * d
      if range.greatest < next then .error .tooLarge
      else if next < range.least then .error .tooSmall
      else readDigits range sign next rest

/-- The integer that a text denotes.  A minus sign is read as a sign only in a range with negative
integers. -/
def readInteger (range : Range) : List Char → Except IntegerFault Int
  | [] => .error .empty
  | ['+'] | ['-'] => .error .invalidDigit
  | '+' :: digits => readDigits range 1 0 digits
  | '-' :: digits =>
    if range.least < 0 then readDigits range (-1) 0 digits else .error .invalidDigit
  | digits => readDigits range 1 0 digits

/-- A text read as an integer of 32 bits without a sign. -/
def readUInt32 (text : String) : Except IntegerFault UInt32 :=
  (readInteger unsigned32 text.toList).map fun n => UInt32.ofNat n.toNat

/-- A text read as an integer of 64 bits without a sign. -/
def readUInt64 (text : String) : Except IntegerFault UInt64 :=
  (readInteger unsigned64 text.toList).map fun n => UInt64.ofNat n.toNat

end FrameDetect.Text
