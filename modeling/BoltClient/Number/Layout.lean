import BoltClient.Number.Shortest

/-!
How the text of a double is laid out: which of two equally near digits ends it,
which magnitudes are written positionally, whether a whole number keeps a point,
and what an exponent looks like.
-/

namespace BoltClient

/-- The decisions of one decimal text format. Without bounds every number is
written positionally. -/
structure DecimalLayout where
  /-- The least and the greatest power of ten of the leading digit that are
  written positionally. -/
  positional : Option (Int × Int)
  /-- Whether a whole number ends in a point and a zero. -/
  wholePoint : Bool
  /-- Whether an exponent that is not negative has a sign. -/
  plus : Bool
  /-- Where the last digit goes when two are equally near. -/
  tie : Tie

namespace DecimalLayout

/-- Every digit is written out and a whole number has no point. -/
def plain : DecimalLayout := ⟨none, false, true, .up⟩

/-- Every digit is written out and there is always a point. -/
def pointed : DecimalLayout := ⟨none, true, true, .up⟩

/-- Powers of ten from -5 to 15 are written positionally, always with a point. -/
def scientific : DecimalLayout := ⟨some (-5, 15), true, true, .even⟩

/-- Powers of ten from -4 to 15 are written positionally, always with a point; only a negative
exponent has a sign. -/
def labelled : DecimalLayout := ⟨some (-4, 15), true, false, .up⟩

def zeros (count : Nat) : String := String.ofList (List.replicate count '0')

/-- Digits with a point before the last `-exponent` of them. -/
def positionalText (layout : DecimalLayout) (decimal : Decimal) : String :=
  let digits := toString decimal.digits
  if 0 ≤ decimal.exponent then
    digits ++ zeros decimal.exponent.toNat ++ if layout.wholePoint then ".0" else ""
  else
    let places := (-decimal.exponent).toNat
    let padded := zeros (places + 1 - digits.length) ++ digits
    let whole := padded.length - places
    String.ofList (padded.toList.take whole) ++ "." ++ String.ofList (padded.toList.drop whole)

/-- One digit before the point, then the power of ten. -/
def exponentText (layout : DecimalLayout) (digits : String) (leading : Int) : String :=
  let significand := match digits.toList with
    | first :: second :: rest => String.ofList (first :: '.' :: second :: rest)
    | _ => digits
  let sign := if leading < 0 then "-" else if layout.plus then "+" else ""
  significand ++ "e" ++ sign ++ toString leading.natAbs

def magnitudeText (layout : DecimalLayout) (decimal : Decimal) : String :=
  let digits := toString decimal.digits
  let leading : Int := decimal.exponent + digits.length - 1
  match layout.positional with
  | some (least, greatest) =>
    if decimal.digits = 0 ∨ (least ≤ leading ∧ leading ≤ greatest) then
      layout.positionalText decimal
    else layout.exponentText digits leading
  | none => layout.positionalText decimal

/-- The text of any double, the sign of zero included. -/
def text (layout : DecimalLayout) (number : Double) : String :=
  if number.isNaN then "NaN"
  else
    let sign := if number.isNegative then "-" else ""
    if number.isInfinite then sign ++ "inf"
    else sign ++ layout.magnitudeText (Shortest.ofDouble layout.tie number)

end DecimalLayout
end BoltClient
