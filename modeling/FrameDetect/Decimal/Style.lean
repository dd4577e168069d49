import FrameDetect.Decimal.Shortest

/-!
# Styles of decimal text

How the digits of a number are written: in messages always positionally, in JSON positionally only
for moderate sizes.  Everything a style decides is a field of one record.
-/

namespace FrameDetect.Decimal

open Float.Model (UnpackedFloat)
open FrameDetect.Number (isNegative)

/-- What a way of writing numbers decides. -/
structure Style where
  /-- Which of two equally near decimals is written. -/
  tie : Tie
  /-- Whether a number with this power of ten for its first digit is written positionally. -/
  positional : Int → Bool
  /-- What follows a whole number written positionally. -/
  wholeSuffix : String
  /-- What stands for something that is not a number. -/
  notANumber : String
  /-- What stands for an infinity, given whether it is negative. -/
  infinity : Bool → String

/-- Numbers in messages: never an exponent, and nothing after a whole number. -/
def messageStyle : Style where
  tie := .up
  positional _ := true
  wholeSuffix := ""
  notANumber := "NaN"
  infinity negative := if negative then "-inf" else "inf"

/-- Numbers in JSON: positional while the power of ten of the first digit lies between two bounds, with
a fraction always, and `null` for what JSON cannot hold. -/
def jsonStyle (least greatest : Int) : Style where
  tie := .even
  positional lead := least ≤ lead && lead ≤ greatest
  wholeSuffix := ".0"
  notANumber := "null"
  infinity _ := "null"

/-- The digits with the point before the last `places` of them. -/
def withPoint (digits : List Char) (places : Nat) : List Char :=
  let padded := List.replicate (places + 1 - digits.length) '0' ++ digits
  let cut := padded.length - places
  padded.take cut ++ (if places = 0 then [] else '.' :: padded.drop cut)

/-- A decimal without an exponent. -/
def positionalText (style : Style) (d : Scientific) : String :=
  let digits := Nat.toDigits 10 d.digits
  if 0 ≤ d.exponent then
    String.ofList (digits ++ List.replicate d.exponent.toNat '0') ++ style.wholeSuffix
  else String.ofList (withPoint digits (-d.exponent).toNat)

/-- A decimal with one digit before the point and a signed exponent. -/
def exponentText (d : Scientific) (lead : Int) : String :=
  let digits := Nat.toDigits 10 d.digits
  let sign := if lead < 0 then "-" else "+"
  String.ofList (withPoint digits (digits.length - 1)) ++ "e" ++ sign ++ toString lead.natAbs

/-- A positive decimal in the given style. -/
def Scientific.text (style : Style) (d : Scientific) : String :=
  let lead := d.exponent + digitCount d.digits - 1
  if style.positional lead then positionalText style d else exponentText d lead

/-- A number in the given style, where `shortest` finds the digits of a mantissa and exponent. -/
def render (style : Style) (shortest : Tie → Nat → Int → Scientific) (x : UnpackedFloat) : String :=
  let sign := if isNegative x then "-" else ""
  match x with
  | .notANumber => style.notANumber
  | .infinity _ => style.infinity (isNegative x)
  | .zero _ => sign ++ positionalText style ⟨0, 0⟩
  | .finite _ m e _ => sign ++ (shortest style.tie m e).text style

/-- A number of single precision in the given style. -/
def Style.single (style : Style) (x : Float32) : String :=
  render style Scientific.ofSingle x.toModel.unpack

/-- A number of double precision in the given style. -/
def Style.double (style : Style) (x : Float) : String :=
  render style Scientific.ofDouble x.toModel.unpack

/-- A number of single precision in JSON, with an exponent below `1e-6` and from `1e13` on. -/
def jsonSingle (x : Float32) : String := (jsonStyle (-6) 12).single x

/-- A number of double precision in JSON, with an exponent below `1e-5` and from `1e16` on. -/
def jsonDouble (x : Float) : String := (jsonStyle (-5) 15).double x

end FrameDetect.Decimal
