import BoltClient.Number.Binary

/-!
The fewest decimal digits that read back as the same double. The reals that
round to a double form an interval, closed when its significand is even. On
each decimal grid, from one digit to seventeen, only the two neighbours of the
exact value can be nearest; the first grid with a neighbour in the interval is
taken, and of two neighbours the nearer one. A tie goes as the reader of the
digits wants it.
-/

namespace BoltClient

/-- The number `digits · 10 ^ exponent`. -/
structure Decimal where
  digits : Nat
  exponent : Int
  deriving DecidableEq, Repr

/-- Which of two neighbours is taken when both are equally near. -/
inductive Tie where
  | even
  | up
  deriving DecidableEq, Repr

/-- Whether a tie between `lower` and its successor goes to `lower`. -/
def Tie.takesLower (tie : Tie) (lower : Nat) : Bool := tie = .even && lower % 2 == 0

namespace Shortest

def digitCount (number : Nat) : Nat := (Nat.toDigits 10 number).length

/-- The power of ten of the leading digit of a positive ratio. -/
def leadingExponent (numerator denominator : Nat) : Int :=
  if denominator ≤ numerator then (digitCount (numerator / denominator) : Int) - 1
  else -(digitCount ((denominator - 1) / numerator) : Int)

/-- A positive double as `value / scale`, with the ends of its rounding interval
over the same scale. -/
structure Interval where
  scale : Nat
  value : Nat
  low : Nat
  high : Nat
  closed : Bool

/-- Below a power of two the doubles lie twice as dense, so there the lower end
is half as far away as the upper one. -/
def Interval.ofParts (significand : Nat) (exponent : Int) (denseBelow : Bool) : Interval :=
  let up := exponent.toNat
  { scale := 4 <<< (-exponent).toNat
    value := (4 * significand) <<< up
    low := (4 * significand - if denseBelow then 1 else 2) <<< up
    high := (4 * significand + 2) <<< up
    closed := significand % 2 == 0 }

def Interval.contains (interval : Interval) (numerator denominator : Nat) : Bool :=
  let point := numerator * interval.scale
  let low := interval.low * denominator
  let high := interval.high * denominator
  if interval.closed then low ≤ point && point ≤ high else low < point && point < high

/-- The grid point nearest to the value that lies in the interval, on the grid
of multiples of `10 ^ exponent`. -/
def Interval.onGrid (interval : Interval) (tie : Tie) (exponent : Int) : Option Decimal :=
  let up := Nat.pow 10 exponent.toNat
  let down := Nat.pow 10 (-exponent).toNat
  let top := interval.value * down
  let bottom := interval.scale * up
  let floor := top / bottom
  let below := 0 < floor && interval.contains (floor * up) down
  let above := interval.contains ((floor + 1) * up) down
  let remainder := top % bottom
  let takeBelow :=
    2 * remainder < bottom || (2 * remainder == bottom && tie.takesLower floor)
  if below && (takeBelow || !above) then some ⟨floor, exponent⟩
  else if above then some ⟨floor + 1, exponent⟩
  else none

/-- Moves the zeros at the end of the digits into the exponent. -/
def stripZeros : (fuel : Nat) → Decimal → Decimal
  | 0, decimal => decimal
  | fuel + 1, decimal =>
    if decimal.digits % 10 = 0 ∧ decimal.digits ≠ 0 then
      stripZeros fuel ⟨decimal.digits / 10, decimal.exponent + 1⟩
    else decimal

/-- The shortest decimal of a finite double's magnitude. -/
def ofDouble (tie : Tie) (number : Double) : Decimal :=
  let (significand, exponent) := BinaryFormat.double.parts number.magnitude
  if significand = 0 then ⟨0, 0⟩
  else
    let denseBelow := significand == 1 <<< 52 && BinaryFormat.double.leastExponent < exponent
    let interval := Interval.ofParts significand exponent denseBelow
    let leading := leadingExponent interval.value interval.scale
    match (List.range 17).findSome? fun (count : Nat) =>
        interval.onGrid tie (leading - count) with
    | some decimal => stripZeros 20 decimal
    | none => ⟨significand <<< exponent.toNat, 0⟩

end Shortest
end BoltClient
