import Stablecoin.Decimal.Shortest

namespace Stablecoin.Decimal

/-- The decisions of a number format. -/
structure Layout where
  /-- The leading digits with these exponents are written without an exponent; `none`
      stands for all of them. -/
  positional : Option (Int × Int)
  /-- A number without fraction is written with a zero behind the point. -/
  pointZero : Bool
  /-- The choice between two equally short and equally near decimals. -/
  tie : Tie
  nan : String
  infinity : String
deriving Repr

namespace Layout

/-- Digits and exponent without one: the point stands before, inside or behind the digits. -/
def position (layout : Layout) (d : Digits) : String :=
  let text := toString d.digits
  if 0 ≤ d.exponent then
    text ++ "".pushn '0' d.exponent.toNat ++ (if layout.pointZero then ".0" else "")
  else
    let places := (-d.exponent).toNat
    let padded := "".pushn '0' (places + 1 - text.length) ++ text
    (padded.take (padded.length - places)).copy ++ "." ++ (padded.drop (padded.length - places)).copy

/-- One digit before the point and an exponent with its sign. -/
def scientific (d : Digits) : String :=
  let text := toString d.digits
  let exponent := d.exponent + text.length - 1
  let fraction := if text.length = 1 then "" else "." ++ (text.drop 1).copy
  (text.take 1).copy ++ fraction ++ "e" ++ (if exponent < 0 then "-" else "+") ++ toString exponent.natAbs

/-- The text of a finite magnitude. -/
def magnitude (layout : Layout) (x : Binary) : String :=
  let d := shortest layout.tie x
  let leading := d.exponent + (toString d.digits).length - 1
  match layout.positional with
  | none => layout.position d
  | some (least, most) =>
    if d.digits = 0 ∨ least ≤ leading ∧ leading ≤ most then layout.position d else scientific d

/-- The text of a float. -/
def render (layout : Layout) (x : Float) : String :=
  if x.isNaN then layout.nan
  else
    let sign := if isNegative x then "-" else ""
    if x.isFinite then sign ++ layout.magnitude (Binary.ofBits x.toBits) else sign ++ layout.infinity

end Layout

/-- Numbers in tables and messages: all digits, no exponent, and a point only before
    a fraction. -/
def plain : Layout where
  positional := none
  pointZero := false
  tie := .awayFromZero
  nan := "NaN"
  infinity := "inf"

/-- `plain` with an argument of its own. -/
def text (x : Float) : String := plain.render x

end Stablecoin.Decimal
