import FrameDetect.Decimal.Style

/-!
# Decimals with fixed places

A number written with a given count of decimal places.  The exact value is rounded once, a half
going to the even neighbour, and the sign is written also where all digits are zero.
-/

namespace FrameDetect.Decimal

open FrameDetect.Number (isNegative)

/-- The integer nearest to `n / d`, a half going to the even neighbour. -/
def nearestEven (n d : Nat) : Nat :=
  let q := n / d
  match compare (2 * (n % d)) d with
  | .lt => q
  | .gt => q + 1
  | .eq => q + q % 2

/-- `m · 2 ^ e` with `places` decimal places. -/
def fixedMagnitude (places m : Nat) (e : Int) : String :=
  let scaled := nearestEven (m <<< e.toNat * Nat.pow 10 places) (1 <<< (-e).toNat)
  String.ofList (withPoint (Nat.toDigits 10 scaled) places)

/-- A number with `places` decimal places, for messages. -/
def fixed (places : Nat) (x : Float32) : String :=
  let number := x.toModel.unpack
  let sign := if isNegative number then "-" else ""
  match number with
  | .notANumber => messageStyle.notANumber
  | .infinity _ => messageStyle.infinity (isNegative number)
  | .zero _ => sign ++ fixedMagnitude places 0 0
  | .finite _ m e _ => sign ++ fixedMagnitude places m e

end FrameDetect.Decimal
