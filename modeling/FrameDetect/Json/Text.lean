import FrameDetect.Json.Fault

/-!
# Strings in a JSON text

A string ends at the first quote that is not escaped.  Control characters must be escaped, and
characters outside the basic plane may be written as a pair of surrogates; a surrogate alone is
refused where the string is read, and accepted where it is only skipped.
-/

namespace FrameDetect.Json

/-- The value of a hexadecimal digit. -/
def hexDigit? (c : Char) : Option Nat :=
  if c.isDigit then some (c.toNat - '0'.toNat)
  else if 'a' ≤ c ∧ c ≤ 'f' then some (c.toNat - 'a'.toNat + 10)
  else if 'A' ≤ c ∧ c ≤ 'F' then some (c.toNat - 'A'.toNat + 10)
  else none

/-- The number that four hexadecimal digits denote. -/
def unit? (a b c d : Char) : Option Nat := do
  return 4096 * (← hexDigit? a) + 256 * (← hexDigit? b) + 16 * (← hexDigit? c) + (← hexDigit? d)

/-- Whether a text has at least four bytes, as many as the digits of a code take. -/
def holdsUnit (cs : List Char) : Bool :=
  4 ≤ (String.ofList cs).utf8ByteSize

/-- The character that a letter after a backslash stands for. -/
def shortEscape? : Char → Option Char
  | '"' => some '"'
  | '\\' => some '\\'
  | '/' => some '/'
  | 'b' => some '\x08'
  | 'f' => some '\x0c'
  | 'n' => some '\n'
  | 'r' => some '\r'
  | 't' => some '\t'
  | _ => none

/-- Whether a number is the first half of a pair of surrogates. -/
def isHighUnit (n : Nat) : Bool := 0xD800 ≤ n && n ≤ 0xDBFF

/-- Whether a number is the second half of a pair of surrogates. -/
def isLowUnit (n : Nat) : Bool := 0xDC00 ≤ n && n ≤ 0xDFFF

/-- The character of a pair of surrogates. -/
def pairChar (high low : Nat) : Char :=
  Char.ofNat (0x10000 + 0x400 * (high - 0xD800) + (low - 0xDC00))

/-- The rest of a string, after characters read in reverse.  Where a surrogate has been read, only its
second half may follow. -/
def readTextFrom (done : List Char) (high : Option Nat) : List Char → Result String
  | [] => .error .ended
  | '\\' :: 'u' :: a :: b :: c :: d :: rest =>
    match unit? a b c d, high with
    | none, _ => .error (if holdsUnit (a :: b :: c :: d :: rest) then .malformed else .ended)
    | some n, none =>
      if isLowUnit n then .error .malformed
      else if isHighUnit n then readTextFrom done (some n) rest
      else readTextFrom (Char.ofNat n :: done) none rest
    | some n, some h =>
      if isLowUnit n then readTextFrom (pairChar h n :: done) none rest else .error .malformed
  | '\\' :: 'u' :: rest => .error (if holdsUnit rest then .malformed else .ended)
  | '\\' :: c :: rest =>
    match high, shortEscape? c with
    | none, some escaped => readTextFrom (escaped :: done) none rest
    | _, _ => .error .malformed
  | ['\\'] => .error .ended
  | c :: rest =>
    if high.isSome ∨ c.toNat < 32 then .error .malformed
    else if c = '"' then .ok (String.ofList done.reverse, rest)
    else readTextFrom (c :: done) none rest

/-- A string after its opening quote. -/
def readText (cs : List Char) : Result String := readTextFrom [] none cs

/-- The text after a string whose opening quote is past. -/
def skipText : List Char → Except Fault (List Char)
  | [] => .error .ended
  | '\\' :: 'u' :: a :: b :: c :: d :: rest =>
    if (unit? a b c d).isSome then skipText rest else .error .malformed
  | '\\' :: 'u' :: rest => .error (if holdsUnit rest then .malformed else .ended)
  | '\\' :: c :: rest => if (shortEscape? c).isSome then skipText rest else .error .malformed
  | ['\\'] => .error .ended
  | c :: rest =>
    if c.toNat < 32 then .error .malformed else if c = '"' then .ok rest else skipText rest

end FrameDetect.Json
