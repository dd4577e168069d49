import FrameDetect.Number.Rounding

/-!
# Shortest decimals

The decimal number with the fewest digits that reads back as a given binary number, and of those
the nearest to it.  Of a positive number `m · 2 ^ e` the search looks at `1, 2, …` digits; on the
grid of each length only the two neighbours of the number can be the nearest, so these two are
tested against the interval of reals that round to it.
-/

namespace FrameDetect.Decimal

open Float.Model (UnpackedFloat)

/-- The decimal number `digits · 10 ^ exponent`. -/
structure Scientific where
  digits : Nat
  exponent : Int
deriving Repr, DecidableEq

/-- Which of two equally near decimals is taken. -/
inductive Tie where
  | up
  | even
deriving Repr, DecidableEq

/-- A positive number `numerator / denominator` of a binary format, in units of a quarter of the
distance to the next one: reals nearer than `below` downwards and `above` upwards round to it, the
two ends if `closed`. -/
structure Target where
  numerator : Nat
  unit : Nat
  denominator : Nat
  below : Nat
  above : Nat
  closed : Bool
deriving Repr, DecidableEq

/-- The target `m · 2 ^ e` in a format of `precision` mantissa bits whose least exponent is
`leastExponent`.  Below a power of two numbers lie twice as dense. -/
def Target.ofBinary (precision : Nat) (leastExponent : Int) (m : Nat) (e : Int) : Target :=
  let unit := 1 <<< (e - 2).toNat
  { numerator := 4 * m * unit
    unit
    denominator := 1 <<< (2 - e).toNat
    below := if m = 1 <<< (precision - 1) ∧ leastExponent < e then 1 else 2
    above := 2
    closed := m % 2 = 0 }

/-- The number of decimal digits of `n`; none for zero. -/
def digitCount (n : Nat) : Nat :=
  if n = 0 then 0 else (Nat.toDigits 10 n).length

/-- The power of ten of the first digit. -/
def Target.leading (t : Target) : Int :=
  if t.denominator ≤ t.numerator then digitCount (t.numerator / t.denominator) - 1
  else -digitCount ((t.denominator - 1) / t.numerator)

/-- `10 ^ k` as a fraction. -/
def power10 (k : Int) : Nat × Nat := (Nat.pow 10 k.toNat, Nat.pow 10 (-k).toNat)

/-- Whether `s · 10 ^ k` rounds to the target. -/
def Target.admits (t : Target) (k : Int) (s : Nat) : Bool :=
  let (scale, shrink) := power10 k
  let point := s * scale * t.denominator
  let low := (t.numerator - t.below * t.unit) * shrink
  let high := (t.numerator + t.above * t.unit) * shrink
  if t.closed then low ≤ point && point ≤ high else low < point && point < high

/-- The nearest decimal on the grid of `10 ^ k` that rounds to the target, if there is one. -/
def Target.onGrid (t : Target) (tie : Tie) (k : Int) : Option Scientific :=
  let (scale, shrink) := power10 k
  let whole := t.denominator * scale
  let s := t.numerator * shrink / whole
  let rest := t.numerator * shrink % whole
  let nearest := match compare (2 * rest) whole, tie with
    | .lt, _ => s
    | .gt, _ | .eq, .up => s + 1
    | .eq, .even => s + s % 2
  match t.admits k s, t.admits k (s + 1) with
  | true, true => some ⟨nearest, k⟩
  | true, false => some ⟨s, k⟩
  | false, true => some ⟨s + 1, k⟩
  | false, false => none

/-- The same number without a zero at the end of its digits. -/
def Scientific.trimmed (d : Scientific) : Scientific :=
  if d.digits ≠ 0 ∧ d.digits % 10 = 0 then ⟨d.digits / 10, d.exponent + 1⟩ else d

/-- The decimal with the fewest digits that rounds to the target.  Seventeen digits suffice for
every format up to double precision. -/
def Target.shortest (t : Target) (tie : Tie) : Scientific :=
  let lead := t.leading
  let found := (List.range 17).findSome? fun (n : Nat) => t.onGrid tie (lead - n)
  (found.getD ⟨0, 0⟩).trimmed

/-- The digits of a number of single precision, whose numbers have 24 bits. -/
def Scientific.ofSingle (tie : Tie) (m : Nat) (e : Int) : Scientific :=
  (Target.ofBinary 24 (-149) m e).shortest tie

/-- The digits of a number of double precision, whose numbers have 53 bits. -/
def Scientific.ofDouble (tie : Tie) (m : Nat) (e : Int) : Scientific :=
  (Target.ofBinary 53 (-1074) m e).shortest tie

end FrameDetect.Decimal
