/-!
# Internet addresses in URLs

Addresses of version 4, which a URL may write with fewer numbers and in other bases, and of version 6
between brackets.
-/

namespace FrameDetect.Url

/-- The value of a digit in bases up to sixteen. -/
def digitIn? (base : Nat) (c : Char) : Option Nat :=
  let value :=
    if c.isDigit then some (c.toNat - '0'.toNat)
    else if 'a' ≤ c.toLower ∧ c.toLower ≤ 'f' then some (c.toLower.toNat - 'a'.toNat + 10)
    else none
  value.filter (· < base)

/-- The number that digits denote. -/
def numberIn? (base : Nat) (digits : List Char) : Option Nat :=
  digits.foldlM (fun n c => (digitIn? base c).map (base * n + ·)) 0

/-- A number of an address: hexadecimal after `0x`, octal after another `0`, else decimal. -/
def addressNumber? : List Char → Option Nat
  | [] => none
  | '0' :: 'x' :: digits | '0' :: 'X' :: digits => numberIn? 16 digits
  | '0' :: c :: digits => numberIn? 8 (c :: digits)
  | digits => numberIn? 10 digits

/-- The texts between the points of a domain, without an empty one at the end. -/
def domainLabels (domain : List Char) : List (List Char) :=
  let labels := domain.splitOn '.'
  if labels.getLast? = some [] ∧ 1 < labels.length then labels.dropLast else labels

/-- Whether a domain must be an address, because its last label is a number. -/
def endsInNumber (domain : List Char) : Bool :=
  match (domainLabels domain).getLast? with
  | none | some [] => false
  | some last => last.all Char.isDigit || (addressNumber? last).isSome

/-- The value of an address of version 4, whose last number fills the bytes that are left. -/
def version4? (domain : List Char) : Option Nat := do
  let numbers ← (domainLabels domain).mapM addressNumber?
  let last ← numbers.getLast?
  let first := numbers.dropLast
  if numbers.length ≤ 4 ∧ first.all (· ≤ 255) ∧ last < 1 <<< (8 * (5 - numbers.length)) then
    let shifted := first.zipIdx.map fun (n, i) => n <<< (8 * (3 - i))
    some (shifted.foldl (· + ·) last)
  else none

/-- The four bytes of an address of version 4. -/
def version4Text (address : Nat) : List Char :=
  let byte (i : Nat) : List Char := Nat.toDigits 10 (address >>> (8 * i) % 256)
  byte 3 ++ '.' :: byte 2 ++ '.' :: byte 1 ++ '.' :: byte 0

/-- One byte of an address, without zeros in front. -/
def plainByte? (digits : List Char) : Option Nat :=
  if digits.length ≤ 3 ∧ (digits.head? ≠ some '0' ∨ digits.length = 1) ∧ !digits.isEmpty then
    (numberIn? 10 digits).filter (· ≤ 255)
  else none

/-- The pieces of 16 bits between colons, of which the last may be an address of version 4. -/
def pieces? : List (List Char) → Option (List Nat)
  | [] => some []
  | [last] =>
    if last.contains '.' then do
      match ← (last.splitOn '.').mapM plainByte? with
      | [a, b, c, d] => some [256 * a + b, 256 * c + d]
      | _ => none
    else if last.isEmpty ∨ 4 < last.length then none
    else (numberIn? 16 last).map ([·])
  | piece :: rest => do
    if piece.isEmpty ∨ 4 < piece.length then none
    else return (← numberIn? 16 piece) :: (← pieces? rest)

/-- The text before and after the first double colon. -/
def splitDouble (before : List Char) : List Char → Option (List Char × List Char)
  | ':' :: ':' :: rest => some (before.reverse, rest)
  | c :: rest => splitDouble (c :: before) rest
  | [] => none

/-- The texts between colons; none in an empty text. -/
def colonParts (cs : List Char) : List (List Char) := if cs.isEmpty then [] else cs.splitOn ':'

/-- The eight pieces of an address of version 6.  A double colon stands for as many zeros as are
missing, at least one. -/
def version6? (cs : List Char) : Option (List Nat) :=
  match splitDouble [] cs with
  | none => do
    let pieces ← pieces? (colonParts cs)
    if pieces.length = 8 then some pieces else none
  | some (before, after) => do
    if before.contains '.' then none
    let left ← pieces? (colonParts before)
    let right ← pieces? (colonParts after)
    let known := left.length + right.length
    if known ≤ 7 then some (left ++ List.replicate (8 - known) 0 ++ right) else none

/-- The length of the run of zeros at the start. -/
def zeroRun (pieces : List Nat) : Nat := (pieces.takeWhile (· = 0)).length

/-- The start and the length of the first longest run of zeros. -/
def longestZeros (pieces : List Nat) : Nat × Nat :=
  (List.range pieces.length).foldl
    (fun (start, length) i =>
      let run := zeroRun (pieces.drop i)
      if length < run then (i, run) else (start, length))
    (0, 0)

/-- Pieces with colons between them. -/
def colonText (pieces : List Nat) : List Char :=
  [':'].intercalate (pieces.map (Nat.toDigits 16 ·))

/-- An address of version 6 between brackets; the longest run of two or more zeros becomes a double
colon. -/
def version6Text (pieces : List Nat) : List Char :=
  let (start, length) := longestZeros pieces
  let inner :=
    if length < 2 then colonText pieces
    else colonText (pieces.take start) ++ [':', ':'] ++ colonText (pieces.drop (start + length))
  '[' :: inner ++ [']']

end FrameDetect.Url
