/-!
Spans of time as text: the largest unit that does not exceed the span, with as
many decimals as it takes.
-/

namespace BoltClient.Elapsed

def nanosPerSecond : Nat := 1000000000
def nanosPerMilli : Nat := 1000000

/-- Exactly `width` digits, zeros in front. -/
def padded (width number : Nat) : List Char :=
  let digits := Nat.toDigits 10 number
  List.replicate (width - digits.length) '0' ++ digits

/-- A whole number and its decimals, none of them a zero at the end. -/
def decimal (whole fraction width : Nat) : String :=
  let digits := ((padded width fraction).reverse.dropWhile (· = '0')).reverse
  String.ofList (Nat.toDigits 10 whole ++ if digits.isEmpty then [] else '.' :: digits)

/-- The text of a span given in nanoseconds. -/
def text (nanoseconds : Nat) : String :=
  if nanosPerSecond ≤ nanoseconds then
    decimal (nanoseconds / nanosPerSecond) (nanoseconds % nanosPerSecond) 9 ++ "s"
  else if nanosPerMilli ≤ nanoseconds then
    decimal (nanoseconds / nanosPerMilli) (nanoseconds % nanosPerMilli) 6 ++ "ms"
  else if 1000 ≤ nanoseconds then decimal (nanoseconds / 1000) (nanoseconds % 1000) 3 ++ "µs"
  else decimal nanoseconds 0 0 ++ "ns"

end BoltClient.Elapsed
