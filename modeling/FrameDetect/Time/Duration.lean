/-!
# Durations

A span of time in nanoseconds, and its text in the largest unit that it fills.
-/

namespace FrameDetect.Time

/-- A span of time. -/
structure Duration where
  nanoseconds : Nat
deriving Repr, DecidableEq, Inhabited

namespace Duration

def ofMilliseconds (n : Nat) : Duration := ⟨n * 1000000⟩

instance : Add Duration := ⟨fun a b => ⟨a.nanoseconds + b.nanoseconds⟩⟩

/-- The digits of `rest` as a fraction of `unit`, a power of ten, without zeros at the end. -/
def fraction (rest unit : Nat) : String :=
  let width := (Nat.toDigits 10 unit).length - 1
  let digits := Nat.toDigits 10 rest
  let padded := List.replicate (width - digits.length) '0' ++ digits
  let shown := (padded.reverse.dropWhile (· == '0')).reverse
  if shown.isEmpty then "" else "." ++ String.ofList shown

/-- A number of nanoseconds in a unit of as many nanoseconds. -/
def inUnit (n unit : Nat) (name : String) : String :=
  toString (n / unit) ++ fraction (n % unit) unit ++ name

/-- The text of a duration. -/
def text (d : Duration) : String :=
  let n := d.nanoseconds
  if 1000000000 ≤ n then inUnit n 1000000000 "s"
  else if 1000000 ≤ n then inUnit n 1000000 "ms"
  else if 1000 ≤ n then inUnit n 1000 "µs"
  else inUnit n 1 "ns"

end Duration

end FrameDetect.Time
