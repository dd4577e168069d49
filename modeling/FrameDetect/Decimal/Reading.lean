import FrameDetect.Text.Integer

/-!
# Reading decimals

Text of a number of single precision, as a user types it: an optional sign, then `inf`,
`infinity` or `nan` in any case, or digits with at most one point among them and an optional
exponent.  The decimal is rounded once.
-/

namespace FrameDetect.Decimal

open FrameDetect.Text (digit?)

/-- The digits at the start of a text, as one number after those of `value`, with their count and
what follows them. -/
def takeDigits (value count : Nat) : List Char → Nat × Nat × List Char
  | [] => (value, count, [])
  | c :: rest =>
    match digit? c with
    | some d => takeDigits (10 * value + d) (count + 1) rest
    | none => (value, count, c :: rest)

/-- A sign at the start of a text: whether it is a minus, and what follows. -/
def takeSign : List Char → Bool × List Char
  | '-' :: rest => (true, rest)
  | '+' :: rest => (false, rest)
  | rest => (false, rest)

/-- The exponent of a number: nothing, or `e` with an optional sign and at least one digit. -/
def readExponent : List Char → Option Int
  | [] => some 0
  | c :: rest =>
    if c = 'e' ∨ c = 'E' then
      let (negative, digits) := takeSign rest
      match takeDigits 0 0 digits with
      | (_, 0, _) => none
      | (n, _, []) => some (if negative then -n else n)
      | _ => none
    else none

/-- The number of single precision nearest to `digits · 10 ^ exponent`. -/
def nearestSingle (digits : Nat) (exponent : Int) : Float32 :=
  OfScientific.ofScientific digits (exponent < 0) exponent.natAbs

/-- A number without its sign. -/
def readMagnitude (cs : List Char) : Option Float32 :=
  let (whole, wholeCount, rest) := takeDigits 0 0 cs
  let (digits, count, rest) := match rest with
    | '.' :: fraction => takeDigits whole wholeCount fraction
    | _ => (whole, wholeCount, rest)
  if count = 0 then none
  else (readExponent rest).map fun exponent =>
    nearestSingle digits (exponent - (count - wholeCount : Nat))

/-- Positive infinity. -/
def infinite : Float32 := .ofModel (.pack (.infinity .positive))

/-- Something that is not a number. -/
def notNumber : Float32 := .ofModel (.pack .notANumber)

/-- The number that a text denotes. -/
def readSingle (text : String) : Option Float32 :=
  let (negative, cs) := takeSign text.toList
  let word := String.ofList (cs.map Char.toLower)
  let magnitude :=
    if word = "inf" ∨ word = "infinity" then some infinite
    else if word = "nan" then some notNumber
    else readMagnitude cs
  magnitude.map fun x => if negative then -x else x

end FrameDetect.Decimal
