import FrameDetect.Json.Fault
import FrameDetect.Text.Integer

/-!
# Numbers in a JSON text

An integer that fits 64 bits is read exactly.  Every other number is read as its first digits, as
many as fit 64 bits, scaled once by a power of ten; a number beyond double precision is refused.
-/

namespace FrameDetect.Json

open FrameDetect.Text (digit? signed64 unsigned64)

/-- A number of a JSON text. -/
inductive Number where
  | integer (value : Int)
  | real (value : Float)
deriving DecidableEq

def Number.found : Number → Found
  | .integer value => .integer value
  | .real value => .real value

/-- Whether a text starts with a digit. -/
def startsWithDigit : List Char → Bool
  | c :: _ => (digit? c).isSome
  | [] => false

/-- The text after the digits at its start, and their count. -/
def skipDigits (count : Nat) : List Char → Nat × List Char
  | [] => (count, [])
  | c :: rest => if (digit? c).isSome then skipDigits (count + 1) rest else (count, c :: rest)

/-- Appends the digits at the start of a text to a significand as long as it fits 64 bits, and counts
them. -/
def appendDigits (significand count : Nat) : List Char → Nat × Nat × List Char
  | [] => (significand, count, [])
  | c :: rest =>
    match digit? c with
    | some d =>
      if 10 * significand + d ≤ unsigned64.greatest then appendDigits (10 * significand + d) (count + 1) rest
      else (significand, count, c :: rest)
    | none => (significand, count, c :: rest)

/-- A power of ten in double precision. -/
def power10 (n : Nat) : Float := OfScientific.ofScientific 1 false n

/-- Divides by the largest power of ten in steps, until the number is zero. -/
def scaleDown : Nat → Float → Float
  | 0, x => x
  | steps + 1, x => if x == 0 then x else scaleDown steps (x / power10 308)

/-- The largest power of ten that is multiplied or divided by in one step. -/
def greatestPower : Nat := 308

/-- The number `significand · 10 ^ exponent`, rounded in each step. -/
def scale (negative : Bool) (significand : Nat) (exponent : Int) : Except Fault Float :=
  let start := (UInt64.ofNat significand).toFloat
  let signed (x : Float) : Float := if negative then -x else x
  if 0 ≤ exponent then
    if exponent ≤ greatestPower then
      let x := start * power10 exponent.toNat
      if x.isInf then .error .malformed else .ok (signed x)
    else if start == 0 then .ok (signed start)
    else .error .malformed
  else
    let size := (-exponent).toNat
    let steps := (size - 1) / greatestPower
    let x := scaleDown steps start
    .ok (signed (if x == 0 then x else x / power10 (size - steps * greatestPower)))

/-- The exponents that are told apart; larger ones count as the largest. -/
def exponentRange : FrameDetect.Number.Range := FrameDetect.Number.signed32

/-- The number after the letter of its exponent. -/
def readExponent (negative : Bool) (significand : Nat) (start : Int) (cs : List Char) :
    Result Number :=
  let (down, cs) := match cs with
    | '+' :: rest => (false, rest)
    | '-' :: rest => (true, rest)
    | _ => (false, cs)
  match cs with
  | [] => .error .ended
  | c :: _ =>
    if (digit? c).isNone then .error .malformed
    else
      let (_, rest) := skipDigits 0 cs
      let size : Int := ((cs.take (cs.length - rest.length)).foldl
        (fun n c => 10 * n + (digit? c).getD 0) 0 : Nat)
      if exponentRange.greatest < size then
        if significand ≠ 0 ∧ !down then .error .malformed
        else .ok (.real (if negative then -0.0 else 0.0), rest)
      else
        let exponent := exponentRange.clamp (if down then start - size else start + size)
        (scale negative significand exponent).map fun x => (.real x, rest)

/-- The number after its last digit before the exponent. -/
def readScale (negative : Bool) (significand : Nat) (exponent : Int) (cs : List Char) :
    Result Number :=
  match cs with
  | 'e' :: rest | 'E' :: rest => readExponent negative significand exponent rest
  | _ => (scale negative significand exponent).map fun x => (.real x, cs)

/-- The number after its point. -/
def readFraction (negative : Bool) (significand : Nat) (exponent : Int) (cs : List Char) :
    Result Number :=
  let (significand, count, rest) := appendDigits significand 0 cs
  if startsWithDigit rest then
    readScale negative significand (exponent - count) (skipDigits 0 rest).2
  else if count = 0 then .error (if rest.isEmpty then .ended else .malformed)
  else readScale negative significand (exponent - count) rest

/-- The integer of a significand that fits 64 bits.  A negative zero, and a negative integer that fits
only without its sign, are no integers. -/
def integerNumber (negative : Bool) (significand : Nat) : Number :=
  if !negative then .integer significand
  else if significand = 0 ∨ signed64.greatest + 1 < significand then .real (-(UInt64.ofNat significand).toFloat)
  else .integer (-significand)

/-- A number without its sign. -/
def readNumber (negative : Bool) (cs : List Char) : Result Number :=
  let (significand, _, rest) := appendDigits 0 0 cs
  match cs with
  | [] => .error .ended
  | c :: _ =>
    if (digit? c).isNone ∨ (c = '0' ∧ startsWithDigit (cs.drop 1)) then .error .malformed
    else if startsWithDigit rest then
      let (count, rest) := skipDigits 0 rest
      match rest with
      | '.' :: fraction => readFraction negative significand count fraction
      | _ => readScale negative significand count rest
    else
      match rest with
      | '.' :: fraction => readFraction negative significand 0 fraction
      | 'e' :: exponent | 'E' :: exponent => readExponent negative significand 0 exponent
      | _ => .ok (integerNumber negative significand, rest)

/-- The text after a number without its sign, whose size does not matter. -/
def skipNumber (cs : List Char) : Except Fault (List Char) :=
  let exponent (cs : List Char) : Except Fault (List Char) :=
    match cs with
    | 'e' :: rest | 'E' :: rest =>
      let digits := match rest with
        | '+' :: digits | '-' :: digits => digits
        | _ => rest
      match skipDigits 0 digits with
      | (0, _) => .error .malformed
      | (_, rest) => .ok rest
    | _ => .ok cs
  match skipDigits 0 cs with
  | (0, _) => .error .malformed
  | (count, rest) =>
    if cs.head? = some '0' ∧ 1 < count then .error .malformed
    else match rest with
      | '.' :: fraction =>
        match skipDigits 0 fraction with
        | (0, _) => .error .malformed
        | (_, rest) => exponent rest
      | _ => exponent rest

end FrameDetect.Json
