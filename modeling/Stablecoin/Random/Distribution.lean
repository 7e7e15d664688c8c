import Stablecoin.Number
import Stablecoin.Random.Ziggurat

namespace Stablecoin.Random
open Draw
variable {α : Type} [Number α]

/-- A normal shock around zero. A deviation that is not a positive finite number
    gives none, and draws nothing. -/
def gaussian (deviation : α) : Draw α := do
  if Number.isFinite deviation ∧ 0 < deviation then return 0 + deviation * Number.ofFloat (← standardNormal)
  else return 0

/-- A multiplicative shock of mean one whose logarithm has the given deviation. -/
def logNormal (deviation : α) : Draw α := do
  if Number.isFinite deviation ∧ 0 < deviation then
    let location := -0.5 * deviation * deviation
    return Number.exp (location + deviation * Number.ofFloat (← standardNormal))
  else return 1

/-- A gamma distribution with positive parameters. -/
structure Gamma (α : Type) where
  shape : α
  scale : α
deriving Repr

namespace Gamma

def ofParameters? (shape scale : α) : Option (Gamma α) :=
  if 0 < shape ∧ 0 < scale then some ⟨shape, scale⟩ else none

/-- A draw for a shape above one: the cube of a normal draw around one, accepted as
    the density asks. -/
def sampleLarge (shape scale : α) : Draw α :=
  let d := shape - 1 / 3.0
  let c := 1 / Number.sqrt (9.0 * d)
  retry 0
    (do
      let x : α := Number.ofFloat (← standardNormal)
      let root := 1 + c * x
      if root ≤ 0 then return none
      let v := root * root * root
      let u : α := Number.ofFloat (← openUnit)
      let q := x * x
      if u < 1 - 0.0331 * q * q ∨ Number.log u < 0.5 * q + d * (1 - v + Number.log v) then
        return some (d * v * scale)
      else return none)
    enough

/-- A draw from the distribution. A shape below one is drawn one higher and shrunk by
    a power of a uniform draw. -/
def sample (g : Gamma α) : Draw α := do
  if Number.Same g.shape 1 then
    return Number.ofFloat (← standardExponential) * (1 / (1 / g.scale))
  else if g.shape < 1 then
    let u : α := Number.ofFloat (← openUnit)
    return (← sampleLarge (g.shape + 1) g.scale) * Number.pow u (1 / g.shape)
  else sampleLarge g.shape g.scale

end Gamma

/-- A chi-square distribution: the square of a normal draw for one degree of freedom,
    a gamma distribution for any other number. -/
inductive ChiSquare (α : Type) where
  | square
  | gamma (g : Gamma α)
deriving Repr

namespace ChiSquare

def ofDegrees? (degrees : α) : Option (ChiSquare α) :=
  if Number.Same degrees 1 then some .square
  else (Gamma.ofParameters? (0.5 * degrees) 2.0).map .gamma

def sample : ChiSquare α → Draw α
  | .square => do
    let x : α := Number.ofFloat (← standardNormal)
    return x * x
  | .gamma g => g.sample

end ChiSquare
end Stablecoin.Random
