import Stablecoin.Random.Draw

/-!
Samples of distinct indices. Three methods give a sample in random order, and the
size of the sample and of the range decide between them: shuffling the front of the
whole range, adding one index for each of the last places of the range, or drawing
until an index is new.
-/
namespace Stablecoin.Random
open Draw

/-- An index from zero up to `last`. -/
def indexUpTo (last : Nat) : Draw Nat := do
  return (← upTo last.toUInt32).toNat

/-- Swaps each of the first places of the range with a place from there on. -/
def sampleByShuffle (length amount : Nat) : Draw (List Nat) := do
  let shuffled ← (List.range amount).foldlM
    (fun (places : Array Nat) i => do
      let j ← indexUpTo (length - 1 - i)
      return places.swapIfInBounds i (i + j))
    (Array.range length)
  return shuffled.toList.take amount

/-- Puts `fresh` in front of the first occurrence of `drawn`, or `drawn` at the end
    if it does not occur. -/
def insertDrawn (drawn fresh : Nat) : List Nat → List Nat
  | [] => [drawn]
  | x :: rest => if x = drawn then fresh :: drawn :: rest else x :: insertDrawn drawn fresh rest

/-- For each of the last places of the range draws an index up to it; where the index
    is taken, the place itself is new. A short sample is kept in random order as it
    grows, a long one is shuffled at the end. -/
def sampleByPlaces (length amount : Nat) : Draw (List Nat) := do
  let places := (List.range amount).map (length - amount + ·)
  if amount < 50 then
    places.foldlM (fun chosen place => do return insertDrawn (← indexUpTo place) place chosen) []
  else
    let chosen ← places.foldlM
      (fun (chosen : Array Nat) place => do
        let drawn ← indexUpTo place
        return chosen.push (if chosen.contains drawn then place else drawn))
      #[]
    let shuffled ← ((List.range (amount - 1)).map (amount - 1 - ·)).foldlM
      (fun (chosen : Array Nat) i => do return chosen.swapIfInBounds i (← indexUpTo i))
      chosen
    return shuffled.toList

/-- One index of the range: a product of a word and the length is taken unless its low
    half lies beyond the last full share. -/
def indexBelow (length : Nat) : Draw Nat :=
  retry 0
    (do
      let product := (← word).toNat * length
      let zone := UInt32.size - 1 - (UInt32.size - length) % length
      return if product % UInt32.size ≤ zone then some (product / UInt32.size) else none)
    enough

/-- Draws indices of the range until enough distinct ones are there. -/
def sampleByRejection (length amount : Nat) : Draw (List Nat) := do
  let chosen ← (List.range amount).foldlM
    (fun (chosen : Array Nat) _ => do
      let fresh ← retry 0
        (do
          let drawn ← indexBelow length
          return if chosen.contains drawn then none else some drawn)
        enough
      return chosen.push fresh)
    #[]
  return chosen.toList

/-- The whole range is short enough, for a sample of this size, to be shuffled. The
    bounds are compared in single precision. -/
def shufflePays (length amount : Nat) : Bool :=
  let n := Float32.ofNat length
  let a := Float32.ofNat amount
  if amount < 163 then
    let (slope, base) := if length < 500000 then ((1.6 : Float32), (10.0 : Float32)) else (8.0 / 45.0, 70.0 / 9.0)
    decide (11 < amount) && decide (n < (base + slope * a) * a)
  else
    let slope := if length < 500000 then (270.0 : Float32) else 330.0 / 9.0
    decide (n < slope * a)

/-- `amount` distinct indices below `length`, in random order. -/
def sampleIndices (length amount : Nat) : Draw (List Nat) :=
  if shufflePays length amount then sampleByShuffle length amount
  else if amount < 163 then sampleByPlaces length amount
  else sampleByRejection length amount

end Stablecoin.Random
