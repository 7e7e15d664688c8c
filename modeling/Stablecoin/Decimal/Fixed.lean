import Stablecoin.Decimal.Binary

namespace Stablecoin.Decimal

/-- The quotient rounded to a natural number, a tie to the even one. -/
def roundDiv (numerator denominator : Nat) : Nat :=
  let quotient := numerator / denominator
  match compare (2 * (numerator % denominator)) denominator with
  | .lt => quotient
  | .gt => quotient + 1
  | .eq => quotient + quotient % 2

/-- The magnitude in units of the last place. -/
def Binary.units (x : Binary) (places : Nat) : Nat :=
  roundDiv (x.significand * Nat.pow 2 x.exponent.toNat * Nat.pow 10 places) (Nat.pow 2 (-x.exponent).toNat)

/-- A count of units of the last place, with the point put in; there is at least one place. -/
def pointed (units places : Nat) : String :=
  let text := toString units
  let padded := "".pushn '0' (places + 1 - text.length) ++ text
  (padded.take (padded.length - places)).copy ++ "." ++ (padded.drop (padded.length - places)).copy

/-- The float with the given count of places, at least one. -/
def fixed (places : Nat) (x : Float) : String :=
  if x.isNaN then "NaN"
  else
    let sign := if isNegative x then "-" else ""
    if x.isFinite then sign ++ pointed ((Binary.ofBits x.toBits).units places) places else sign ++ "inf"

end Stablecoin.Decimal
