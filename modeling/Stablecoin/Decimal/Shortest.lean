import Stablecoin.Decimal.Binary

namespace Stablecoin.Decimal

/-- What is chosen in the middle between two candidates. -/
inductive Tie where
  | toEven
  | awayFromZero
deriving Repr, DecidableEq

/-- The least power of ten above the number is `10 ^ magnitude x`; the number is not zero. -/
def magnitude (x : Binary) : Int :=
  let log2 := (Nat.log2 x.significand : Int) + x.exponent
  -- The estimate is at most one below the magnitude or right.
  let estimate := log2 * 30103 / 100000
  let above (k : Int) : Bool := Binary.compareScaled 1 k x.significand x.exponent = .gt
  if above estimate then estimate
  else if above (estimate + 1) then estimate + 1
  else estimate + 2

/-- The two neighbours of the number on the grid `10 ^ step` that read back to it,
    the nearer of both. -/
def onGrid? (tie : Tie) (x : Binary) (step : Int) : Option Digits :=
  let numerator := x.significand * Nat.pow 2 x.exponent.toNat * Nat.pow 10 (-step).toNat
  let denominator := Nat.pow 2 (-x.exponent).toNat * Nat.pow 10 step.toNat
  let below := numerator / denominator
  let down : Digits := ⟨below, step⟩
  let up : Digits := ⟨below + 1, step⟩
  match x.reads down, x.reads up with
  | true, true =>
    match compare (2 * (numerator % denominator)) denominator with
    | .lt => some down
    | .gt => some up
    | .eq => if tie = .toEven ∧ below % 2 = 0 then some down else some up
  | true, false => some down
  | false, true => some up
  | false, false => none

/-- The number written out in full. -/
def exact (x : Binary) : Digits :=
  if 0 ≤ x.exponent then ⟨x.significand * Nat.pow 2 x.exponent.toNat, 0⟩
  else ⟨x.significand * Nat.pow 5 (-x.exponent).toNat, x.exponent⟩

/-- Moves zeros at the end of the digits into the exponent, at most `fuel` of them. -/
def trimZeros : Nat → Digits → Digits
  | 0, d => d
  | fuel + 1, d =>
    if d.digits ≠ 0 ∧ d.digits % 10 = 0 then trimZeros fuel ⟨d.digits / 10, d.exponent + 1⟩ else d

/-- The shortest decimal that reads back to the number: the coarsest grid decides that
    has a neighbour which reads back. Seventeen digits always do. -/
def shortest (tie : Tie) (x : Binary) : Digits :=
  if x.significand = 0 then ⟨0, 0⟩
  else
    let top := magnitude x
    let found := (List.range 17).findSome? fun (n : Nat) => onGrid? tie x (top - 1 - n)
    trimZeros 400 (found.getD (exact x))

end Stablecoin.Decimal
