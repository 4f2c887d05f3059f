import BoltClient.Json.Basic

/-!
The value of a JSON numeral. Digits are gathered into a 64-bit significand;
those that no longer fit are dropped. The significand is then scaled by one
multiplication or division with a power of ten, in steps of `10 ^ 308` when the
power is smaller, each step rounded to a double.
-/

namespace BoltClient.Json

/-- A numeral taken apart: its sign, the digits before and after the point, and
the exponent with its sign. -/
structure Numeral where
  negative : Bool
  whole : List Nat
  fraction : Option (List Nat)
  exponent : Option (Bool × List Nat)

namespace Numeral

/-- Gathers digits while the significand fits in 64 bits; the rest are left. -/
def gather : (significand : Nat) → List Nat → Nat × List Nat
  | significand, [] => (significand, [])
  | significand, digit :: rest =>
    if significand * 10 + digit < 1 <<< 64 then gather (significand * 10 + digit) rest
    else (significand, digit :: rest)

def powerOfTen (exponent : Nat) : Double := Double.ofRatio (Nat.pow 10 exponent) 1

def isZero (number : Double) : Bool := number.magnitude == 0

/-- Divides by `10 ^ exponent`, by at most `10 ^ 308` at a time. -/
def scaleDown (number : Double) (exponent : Nat) : Double :=
  if exponent ≤ 308 then number.quotient (powerOfTen exponent)
  else if isZero number then number
  else scaleDown (number.quotient (powerOfTen 308)) (exponent - 308)
termination_by exponent

/-- Scales a significand by a power of ten; fails when the result is not finite. -/
def scale (significand : Nat) (exponent : Int) : Option Double :=
  let number := Double.ofRatio significand 1
  if exponent < 0 then some (scaleDown number exponent.natAbs)
  else if 308 < exponent then if isZero number then some number else none
  else
    let scaled := number.product (powerOfTen exponent.toNat)
    if scaled.isFinite then some scaled else none

def signed (negative : Bool) (number : Double) : Double :=
  if negative then number.negate else number

/-- Exponents above 2 ^ 31 - 1 are not computed: a positive one fails unless the
significand is zero, and a negative one gives zero. -/
def applyExponent (significand : Nat) (start : Int) : Option (Bool × List Nat) → Option Double
  | none => scale significand start
  | some (down, digits) =>
    let power : Nat := digits.foldl (fun number digit => number * 10 + digit) 0
    if power < 1 <<< 31 then
      scale significand (if down then start - (power : Int) else start + (power : Int))
    else if significand ≠ 0 ∧ ¬ down then none
    else some (Double.ofRatio 0 1)

/-- A numeral without point and exponent is an integer when it fits in 64 bits,
signed if negative; minus zero and all other numerals are doubles. -/
def toJson? (numeral : Numeral) : Option Json :=
  let (significand, dropped) := gather 0 numeral.whole
  match numeral.fraction, numeral.exponent, dropped with
  | none, none, [] =>
    if numeral.negative then
      if significand = 0 ∨ 1 <<< 63 < significand then
        some (.float (Double.ofRatio significand 1).negate)
      else some (.integer (-significand))
    else some (.integer significand)
  | fraction, exponent, _ =>
    let digits := fraction.getD []
    let (refined, ignored) := gather significand digits
    let start : Int := dropped.length - (digits.length - ignored.length : Nat)
    (applyExponent refined start exponent).map fun number =>
      .float (signed numeral.negative number)

end Numeral
end BoltClient.Json
