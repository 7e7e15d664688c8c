/-!
Finite floats as exact binary numbers. A float stands for the reals that round to
it: those between the middles to its neighbours, the middles included exactly when
the significand is even, for a tie goes to the even neighbour.
-/
namespace Stablecoin.Decimal

/-- The magnitude `significand · 2 ^ exponent` of a finite float. -/
structure Binary where
  significand : Nat
  exponent : Int
  /-- The neighbour below is half as far away as the neighbour above. -/
  narrowBelow : Bool
deriving Repr, DecidableEq

/-- A decimal `digits · 10 ^ exponent`. -/
structure Digits where
  digits : Nat
  exponent : Int
deriving Repr, DecidableEq

/-- The float has the sign of the negative ones, be it zero or infinite. -/
def isNegative (x : Float) : Bool := decide (0x8000000000000000 ≤ x.toBits.toNat)

namespace Binary

/-- The magnitude of the float with the given bits, which are those of a finite one. -/
def ofBits (bits : UInt64) : Binary :=
  let biased := ((bits >>> 52) &&& 0x7FF).toNat
  let fraction := (bits &&& 0xFFFFFFFFFFFFF).toNat
  if biased = 0 then ⟨fraction, -1074, false⟩
  else ⟨0x10000000000000 + fraction, (biased : Int) - 1075, fraction = 0 && decide (1 < biased)⟩

/-- Compares `a · 10 ^ i` with `n · 2 ^ j`. -/
def compareScaled (a : Nat) (i : Int) (n : Nat) (j : Int) : Ordering :=
  compare (a * Nat.pow 10 i.toNat * Nat.pow 2 (-j).toNat) (n * Nat.pow 2 j.toNat * Nat.pow 10 (-i).toNat)

/-- The decimal lies among the reals that round to the number. -/
def reads (x : Binary) (d : Digits) : Bool :=
  let quarters := 4 * x.significand
  let low := compareScaled d.digits d.exponent (if x.narrowBelow then quarters - 1 else quarters - 2) (x.exponent - 2)
  let high := compareScaled d.digits d.exponent (quarters + 2) (x.exponent - 2)
  let even := x.significand % 2 = 0
  (low = .gt || even && low = .eq) && (high = .lt || even && high = .eq)

end Binary
end Stablecoin.Decimal
