import BoltClient.Bytes

/-!
Binary floating point by its bits. A word is read as a sign, a significand and
a power of two; an exact ratio is rounded to the nearest word, ties going to
the even significand. Everything is arithmetic on natural numbers, so each
function can be evaluated and reasoned about.
-/

namespace BoltClient

/-- A layout of sign, exponent and fraction, from the top bit down. -/
structure BinaryFormat where
  exponentBits : Nat
  fractionBits : Nat
  deriving DecidableEq, Repr

namespace BinaryFormat

def double : BinaryFormat := ⟨11, 52⟩
def single : BinaryFormat := ⟨8, 23⟩

/-- The magnitude word of infinity; every larger magnitude is a NaN. -/
def infinity (format : BinaryFormat) : Nat :=
  (1 <<< format.exponentBits - 1) <<< format.fractionBits

/-- The weight of the sign bit. -/
def signWeight (format : BinaryFormat) : Nat := 1 <<< (format.exponentBits + format.fractionBits)

/-- The power of two that one unit of the smallest words is worth. -/
def leastExponent (format : BinaryFormat) : Int :=
  2 - (1 <<< (format.exponentBits - 1) : Nat) - format.fractionBits

def withSign (format : BinaryFormat) (negative : Bool) (magnitude : Nat) : Nat :=
  if negative then format.signWeight + magnitude else magnitude

/-- The significand and the power of two of a finite magnitude word. -/
def parts (format : BinaryFormat) (magnitude : Nat) : Nat × Int :=
  let field := magnitude >>> format.fractionBits
  let fraction := magnitude % 1 <<< format.fractionBits
  if field = 0 then (fraction, format.leastExponent)
  else (1 <<< format.fractionBits + fraction, format.leastExponent + field - 1)

/-- The quotient rounded to the nearest whole number, a half going to the even one. -/
def roundedQuotient (numerator denominator : Nat) : Nat :=
  let quotient := numerator / denominator
  let remainder := numerator % denominator
  if 2 * remainder < denominator then quotient
  else if 2 * remainder = denominator then quotient + quotient % 2
  else quotient + 1

/-- The largest power of two that does not exceed the ratio. -/
def ratioExponent (numerator denominator : Nat) : Int :=
  let guess : Int := (Nat.log2 numerator : Int) - Nat.log2 denominator
  if numerator <<< (-guess).toNat < denominator <<< guess.toNat then guess - 1 else guess

/-- The magnitude word nearest to a ratio; too large a ratio gives infinity. -/
def nearest (format : BinaryFormat) (numerator denominator : Nat) : Nat :=
  if numerator = 0 then 0
  else
    let exponent := max format.leastExponent
      (ratioExponent numerator denominator - format.fractionBits)
    let significand := roundedQuotient (numerator <<< (-exponent).toNat)
      (denominator <<< exponent.toNat)
    let word := (exponent - format.leastExponent).toNat <<< format.fractionBits + significand
    min word format.infinity

/-- A word of one format carried to another: finite values are rounded, and of
a NaN the top fraction bits and the sign survive, made quiet. -/
def convert (source target : BinaryFormat) (word : Nat) : Nat :=
  let negative := source.signWeight ≤ word
  let magnitude := word % source.signWeight
  target.withSign negative <|
    if magnitude < source.infinity then
      let (significand, exponent) := source.parts magnitude
      target.nearest (significand <<< exponent.toNat) (1 <<< (-exponent).toNat)
    else if magnitude = source.infinity then target.infinity
    else
      let fraction := magnitude % 1 <<< source.fractionBits
      let carried := fraction <<< target.fractionBits >>> source.fractionBits
      target.infinity + (carried ||| 1 <<< (target.fractionBits - 1))

end BinaryFormat

/-- A double-precision number, told apart from others by its 64 bits. -/
structure Double where
  bits : UInt64
  deriving DecidableEq, Repr, Inhabited

/-- A single-precision number, told apart from others by its 32 bits. -/
structure Single where
  bits : UInt32
  deriving DecidableEq, Repr, Inhabited

namespace Double

open BinaryFormat

def ofWord (word : Nat) : Double := ⟨UInt64.ofNat word⟩

def isNegative (number : Double) : Bool := double.signWeight ≤ number.bits.toNat

/-- The bits without the sign. -/
def magnitude (number : Double) : Nat := number.bits.toNat % double.signWeight

def isFinite (number : Double) : Bool := number.magnitude < double.infinity

def isNaN (number : Double) : Bool := double.infinity < number.magnitude

def isInfinite (number : Double) : Bool := number.magnitude == double.infinity

def negate (number : Double) : Double :=
  ofWord (double.withSign (!number.isNegative) number.magnitude)

/-- Numeric equality: a NaN equals nothing and the two zeros are equal. -/
def same (left right : Double) : Bool :=
  !left.isNaN && !right.isNaN &&
    (left == right || (left.magnitude == 0 && right.magnitude == 0))

/-- The double nearest to a ratio of natural numbers. -/
def ofRatio (numerator denominator : Nat) : Double :=
  ofWord (double.nearest numerator denominator)

def ofInt (number : Int) : Double :=
  ofWord (double.withSign (number < 0) (double.nearest number.natAbs 1))

/-- A finite magnitude as an exact ratio. -/
def ratio (number : Double) : Nat × Nat :=
  let (significand, exponent) := double.parts number.magnitude
  (significand <<< exponent.toNat, 1 <<< (-exponent).toNat)

/-- The rounded product of two finite magnitudes. -/
def product (left right : Double) : Double :=
  let (leftTop, leftBottom) := left.ratio
  let (rightTop, rightBottom) := right.ratio
  ofRatio (leftTop * rightTop) (leftBottom * rightBottom)

/-- The rounded quotient of two finite magnitudes. -/
def quotient (left right : Double) : Double :=
  let (leftTop, leftBottom) := left.ratio
  let (rightTop, rightBottom) := right.ratio
  ofRatio (leftTop * rightBottom) (leftBottom * rightTop)

def ofSingle (number : Single) : Double := ofWord (single.convert double number.bits.toNat)

def toSingle (number : Double) : Single :=
  ⟨UInt32.ofNat (double.convert single number.bits.toNat)⟩

end Double

def Single.ofInt (number : Int) : Single :=
  let format := BinaryFormat.single
  ⟨UInt32.ofNat (format.withSign (number < 0) (format.nearest number.natAbs 1))⟩

end BoltClient
