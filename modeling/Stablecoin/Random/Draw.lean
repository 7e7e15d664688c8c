import Stablecoin.Random.KeyStream

namespace Stablecoin.Random

/-- A computation that draws from a key stream. -/
abbrev Draw := StateM KeyStream

namespace Draw

def word : Draw UInt32 := fun stream => stream.word

/-- Two words, the low one first. -/
def word64 : Draw UInt64 := do
  let low ← word
  let high ← word
  return low.toUInt64 ||| (high.toUInt64 <<< 32)

/-- Repeats a trial until it accepts, at most `tries` times. The trials of this
    library accept at least every second time, so that the fallback is never met. -/
def retry {β : Type} (fallback : β) (trial : Draw (Option β)) : Nat → Draw β
  | 0 => return fallback
  | tries + 1 => do
    match ← trial with
    | some value => return value
    | none => retry fallback trial tries

/-- More trials than any sampler needs. -/
def enough : Nat := 1000000

/-- Uniform over the multiples of 2⁻⁵³ from zero below one. -/
def unit : Draw Float := do
  let bits ← word64
  return (bits >>> 11).toFloat * Float.ofBits 0x3CA0000000000000

/-- One of the floats of the binade that starts at one, moved down to lie strictly
    between zero and one. -/
def openUnit : Draw Float := do
  let bits ← word64
  return Float.ofBits ((bits >>> 12) ||| 0x3FF0000000000000) - Float.ofBits 0x3FEFFFFFFFFFFFFF

/-- A fair coin. -/
def coin : Draw Bool := do
  let bits ← word64
  return decide (bits < 0x8000000000000000)

/-- Uniform from zero up to `last`. A product of a word and the number of outcomes is
    taken unless its low half lies beyond the last full share. -/
def upTo (last : UInt32) : Draw UInt32 := do
  let outcomes := last + 1
  if outcomes = 0 then word
  else
    let leading := 31 - outcomes.log2
    let zone := (outcomes <<< leading) - 1
    retry 0
      (do
        let product := (← word).toUInt64 * outcomes.toUInt64
        return if product.toUInt32 ≤ zone then some (product >>> 32).toUInt32 else none)
      enough

end Draw
end Stablecoin.Random
