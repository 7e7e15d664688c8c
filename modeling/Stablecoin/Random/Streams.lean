import Stablecoin.Random.Draw

/-!
Independent random streams. Every random process of a run draws from a stream of its
own for each period and each index within the period, so that a further draw in one
process leaves all others as they were. The seed of a stream mixes the seed of the
run, the process, the period and the index.
-/
namespace Stablecoin.Random

/-- What the draws of a run decide. -/
inductive Purpose where
  | collateralPrice
  | naturalRate
  | openCount
  | openSelection
  | troveCollateral
  | targetRatio
  | inattention
  | closeCount
  | closeSelection
  | attention
  | adjustChoice
  | stabilityShock
  | stabilityDepositor
  | liquidityShock
  | rewardPrice
deriving Repr, DecidableEq

/-- The number that stands for the purpose in the seeds of its streams. -/
def Purpose.tag : Purpose → UInt64
  | collateralPrice => 1
  | naturalRate => 2
  | openCount => 3
  | openSelection => 4
  | troveCollateral => 5
  | targetRatio => 6
  | inattention => 7
  | closeCount => 8
  | closeSelection => 9
  | attention => 10
  | adjustChoice => 11
  | stabilityShock => 12
  | stabilityDepositor => 13
  | liquidityShock => 14
  | rewardPrice => 15

/-- Scatters the words: each step can be undone, so that no two words meet. -/
def mix (word : UInt64) : UInt64 :=
  let z := word + 0x9E3779B97F4A7C15
  let z := (z ^^^ (z >>> 30)) * 0xBF58476D1CE4E5B9
  let z := (z ^^^ (z >>> 27)) * 0x94D049BB133111EB
  z ^^^ (z >>> 31)

/-- The streams of a run with the given seed. -/
structure Streams where
  seed : UInt64
deriving Repr

namespace Streams

/-- The seed of the stream of a purpose for a period and an index within it. -/
def key (streams : Streams) (purpose : Purpose) (period index : UInt64) : UInt64 :=
  let run := mix (streams.seed ^^^ purpose.tag * 0xA24BAED4963EE407)
  let dated := mix (run ^^^ period)
  mix (dated ^^^ index * 0x9FB21C651E98DF25)

/-- The stream of a purpose for a period and an index within it. -/
def stream (streams : Streams) (purpose : Purpose) (period index : Nat) : KeyStream :=
  KeyStream.ofSeed (streams.key purpose period.toUInt64 index.toUInt64)

/-- The stream of a purpose that is drawn once for the whole run. -/
def pathStream (streams : Streams) (purpose : Purpose) : KeyStream :=
  KeyStream.ofSeed (streams.key purpose 0xFFFFFFFFFFFFFFFF 0)

end Streams
end Stablecoin.Random
