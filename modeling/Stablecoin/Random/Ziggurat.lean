import Stablecoin.Random.Draw
import Stablecoin.Random.ExponentialLayers
import Stablecoin.Random.NormalLayers

/-!
Normal and exponential draws by the ziggurat method. The area under the density is
cut into layers of equal area: a draw picks a layer and a point in it, accepts it
at once inside the next layer, compares it with the density at the rim, and goes on
in the tail when the layer is the base.
-/
namespace Stablecoin.Random

/-- A density cut into layers. -/
structure Ziggurat where
  edges : FloatArray
  heights : FloatArray
  /-- The place within the layer that a word stands for, relative to its edge. -/
  place : UInt64 → Float
  /-- How far from the middle a point lies. -/
  distance : Float → Float
  density : Float → Float
  /-- A draw beyond the base, for a point of the given place. -/
  tail : Float → Draw Float

namespace Ziggurat
open Draw

/-- One trial: a point under the density, or nothing. -/
def trial (z : Ziggurat) : Draw (Option Float) := do
  let bits ← word64
  let layer := (bits &&& 0xFF).toNat
  let u := z.place bits
  let x := u * z.edges.get! layer
  if z.distance x < z.edges.get! (layer + 1) then return some x
  else if layer = 0 then return some (← z.tail u)
  else
    let top := z.heights.get! (layer + 1)
    let v ← unit
    if top + (z.heights.get! layer - top) * v < z.density x then return some x else return none

def sample (z : Ziggurat) : Draw Float := retry 0.0 z.trial enough

end Ziggurat

open Draw

/-- Where the tail of the normal density begins. -/
def normalTail : Float := 3.654152885361008796

/-- The standard normal density, cut into layers on both sides of zero. -/
def normalZiggurat : Ziggurat where
  edges := NormalLayers.edges
  heights := NormalLayers.heights
  place bits := Float.ofBits ((bits >>> 12) ||| 0x4000000000000000) - 3.0
  distance x := x.abs
  density x := ((-x * x) / 2.0).exp
  tail u := do
    -- Two exponential draws give a point of the tail when the second is long enough.
    let x ← retry 0.0
      (do
        let x := (← openUnit).log / normalTail
        let y := (← openUnit).log
        return if -2.0 * y < x * x then none else some x)
      enough
    return if u < 0.0 then x - normalTail else normalTail - x

/-- Where the tail of the exponential density begins. -/
def exponentialTail : Float := 7.697117470131050077

/-- The standard exponential density, cut into layers. -/
def exponentialZiggurat : Ziggurat where
  edges := ExponentialLayers.edges
  heights := ExponentialLayers.heights
  place bits := Float.ofBits ((bits >>> 12) ||| 0x3FF0000000000000) - Float.ofBits 0x3FEFFFFFFFFFFFFF
  distance x := x
  density x := (-x).exp
  tail _ := do
    return exponentialTail - (← unit).log

/-- A draw from the standard normal distribution. -/
def standardNormal : Draw Float := normalZiggurat.sample

/-- A draw from the exponential distribution of mean one. -/
def standardExponential : Draw Float := exponentialZiggurat.sample

end Stablecoin.Random
