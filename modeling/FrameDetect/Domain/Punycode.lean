/-!
# Labels in ASCII

A label of a domain with characters beyond ASCII is written as its ASCII characters and the places and
codes of the others.  The places are differences, in digits of a base that adapts to how great the
differences are.
-/

namespace FrameDetect.Domain

/-- A digit in base 36. -/
def baseDigit (n : Nat) : Char := Char.ofNat (if n < 26 then n + 'a'.toNat else n - 26 + '0'.toNat)

/-- The value of a digit in base 36. -/
def baseValue? (c : Char) : Option Nat :=
  if 'a' ≤ c ∧ c ≤ 'z' then some (c.toNat - 'a'.toNat)
  else if c.isDigit then some (c.toNat - '0'.toNat + 26)
  else none

/-- Whether a character is in ASCII. -/
def isAscii (c : Char) : Bool := c.toNat < 0x80

/-- The mark of a label that is written in ASCII. -/
def asciiMark : List Char := ['x', 'n', '-', '-']

/-- Takes a difference down to the range where the threshold of the digits fits, counting steps. -/
def reduce (delta k : Nat) : Nat → Nat × Nat
  | 0 => (delta, k)
  | fuel + 1 => if 455 < delta then reduce (delta / 35) (k + 36) fuel else (delta, k)

/-- The bias of the next difference. -/
def adapt (delta points : Nat) (first : Bool) : Nat :=
  let start := if first then delta / 700 else delta / 2
  let (delta, k) := reduce (start + start / points) 0 start
  k + 36 * delta / (delta + 38)

/-- The least digit at a place that is followed by another. -/
def threshold (bias k : Nat) : Nat := if k ≤ bias then 1 else min 26 (k - bias)

/-! ## Writing -/

/-- A difference as digits whose base depends on the bias. -/
def differenceDigits (bias q k : Nat) : Nat → List Char
  | 0 => []
  | fuel + 1 =>
    let t := threshold bias k
    if q < t then [baseDigit q]
    else baseDigit (t + (q - t) % (36 - t)) ::
      differenceDigits bias ((q - t) / (36 - t)) (k + 36) fuel

/-- What is known while a label is written. -/
structure Progress where
  delta : Nat
  bias : Nat
  handled : Nat
  output : List Char

/-- Passes all characters once to write those with code `n`. -/
def writeCode (basic n : Nat) (codes : List Nat) (start : Progress) : Progress :=
  codes.foldl
    (fun p code =>
      if code < n then { p with delta := p.delta + 1 }
      else if code = n then
        { delta := 0
          bias := adapt p.delta (p.handled + 1) (p.handled = basic)
          handled := p.handled + 1
          output := p.output ++ differenceDigits p.bias p.delta 36 (p.delta + 1) }
      else p)
    start

/-- Writes the characters from code `n` on, as many times as there are codes left. -/
def writeCodes (basic n : Nat) (codes : List Nat) (p : Progress) : Nat → List Char
  | 0 => p.output
  | fuel + 1 =>
    match (codes.filter (n ≤ ·)).min? with
    | none => p.output
    | some next =>
      let p := { p with delta := p.delta + (next - n) * (p.handled + 1) }
      let p := writeCode basic next codes p
      writeCodes basic (next + 1) codes { p with delta := p.delta + 1 } fuel

/-- A label in ASCII. -/
def asciiLabel (label : List Char) : List Char :=
  if label.all isAscii then label
  else
    let basic := label.filter isAscii
    let start := if basic.isEmpty then [] else basic ++ ['-']
    asciiMark ++
      writeCodes basic.length 0x80 (label.map Char.toNat) ⟨0, 72, basic.length, start⟩ label.length

/-! ## Reading -/

/-- The numbers of a label that is read stay below this one. -/
def numberLimit : Nat := 4294967296

/-- Reads the digits of a difference, which is added to `i`, and gives what follows them.  The digit
at the place counts `weight` times. -/
def readDifference? (bias i weight k : Nat) : List Char → Option (Nat × List Char)
  | [] => none
  | c :: rest =>
    match baseValue? c with
    | none => none
    | some digit =>
      let t := threshold bias k
      let next := i + digit * weight
      if numberLimit ≤ next then none
      else if digit < t then some (next, rest)
      else if numberLimit ≤ weight * (36 - t) then none
      else readDifference? bias next (weight * (36 - t)) (k + 36) rest

/-- Reading a difference takes at least one digit. -/
theorem length_lt_of_readDifference? {bias i weight k : Nat} {cs : List Char}
    {r : Nat × List Char} (h : readDifference? bias i weight k cs = some r) :
    r.2.length < cs.length := by
  fun_induction readDifference? bias i weight k cs <;> simp_all
  · simp [← h]
  · omega

/-- Puts characters beyond ASCII into a label, as long as there are differences.  The last one was put
before place `i` and had the code `code`. -/
def readCodes? (label : List Char) (code i bias : Nat) (cs : List Char) : Option (List Char) :=
  if cs.isEmpty then some label
  else
    match _h : readDifference? bias i 1 36 cs with
    | none => none
    | some (j, rest) =>
      let points := label.length + 1
      let code := code + j / points
      let place := j % points
      if code.isValidChar then
        readCodes? (label.insertIdx place (Char.ofNat code)) code (place + 1)
          (adapt (j - i) points (i = 0)) rest
      else none
termination_by cs.length
decreasing_by exact length_lt_of_readDifference? _h

/-- The label that a text in ASCII stands for, without the mark.  The differences follow the last
hyphen that has characters before it. -/
def readLabel? (cs : List Char) : Option (List Char) :=
  let (after, before) := cs.reverse.span (· != '-')
  match before with
  | _ :: c :: basic =>
    let label := (c :: basic).reverse
    if label.all isAscii then readCodes? label 0x80 0 72 after.reverse else none
  | _ => readCodes? [] 0x80 0 72 cs

end FrameDetect.Domain
