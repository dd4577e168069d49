/-!
# Rounding between number formats

Conversions that core leaves without a definition in the logic: between single and double
precision, to a whole number of single precision, and to a bounded integer.  All of them work on
the sign, mantissa and exponent of the number, in exact integer arithmetic.
-/

namespace FrameDetect.Number

open Float.Model (Format UnpackedFloat)
open Float.Model.UnpackedFloat (Sign)

/-- The nearest number of the given format; of two equally near ones the one with the even
mantissa. -/
def refit (format : Format) : UnpackedFloat → UnpackedFloat
  | .finite sign mantissa exponent _ => .round format sign mantissa exponent
  | number => number

/-- The same number in double precision. -/
def widen (x : Float32) : Float :=
  .ofModel (.pack (refit .binary64 x.toModel.unpack))

/-- The nearest number in single precision. -/
def narrow (x : Float) : Float32 :=
  .ofModel (.pack (refit .binary32 x.toModel.unpack))

/-- Whether the sign bit is set, of zero and infinity too. -/
def isNegative : UnpackedFloat → Bool
  | .infinity .negative | .zero .negative | .finite .negative _ _ _ => true
  | _ => false

/-- The largest integer that is at most `n · 2 ^ e`. -/
def floorScaled (n e : Int) : Int :=
  if 0 ≤ e then n <<< e.toNat else n >>> (-e).toNat

/-- The smallest integer that is at least `n · 2 ^ e`. -/
def ceilScaled (n e : Int) : Int :=
  -floorScaled (-n) e

/-- A range of integers, both ends included. -/
structure Range where
  least : Int
  greatest : Int
deriving Repr, DecidableEq

/-- The integer of the range that is nearest to `n`. -/
def Range.clamp (range : Range) (n : Int) : Int :=
  max range.least (min range.greatest n)

/-- The integers of 32 bits with a sign. -/
def signed32 : Range := ⟨-2147483648, 2147483647⟩

/-- A number taken to an integer by `whole` and then into the range; infinities go to the ends and
what is not a number goes to zero. -/
def toRange (range : Range) (whole : Int → Int → Int) (x : Float32) : Int :=
  match x.toModel.unpack with
  | .infinity .negative => range.least
  | .infinity .positive => range.greatest
  | .notANumber | .zero _ => 0
  | .finite sign mantissa exponent _ => range.clamp (whole (sign.apply mantissa) exponent)

/-- The floor, as an integer of 32 bits. -/
def floor32 (x : Float32) : Int := toRange signed32 floorScaled x

/-- The ceiling, as an integer of 32 bits. -/
def ceil32 (x : Float32) : Int := toRange signed32 ceilScaled x

/-- The nearest integer to `m / 2 ^ k`, a half going up. -/
def halfUp (m k : Nat) : Nat := (2 * m + 1 <<< k) >>> (k + 1)

/-- The nearest whole number of single precision, a half going away from zero.  The sign is kept,
also where the result is zero. -/
def roundAway (x : Float32) : Float32 :=
  match x.toModel.unpack with
  | .finite sign mantissa exponent _ =>
    if 0 ≤ exponent then x
    else
      let magnitude := halfUp mantissa (-exponent).toNat
      .ofModel (.pack (if magnitude = 0 then .zero sign else .round .binary32 sign magnitude 0))
  | _ => x

end FrameDetect.Number
