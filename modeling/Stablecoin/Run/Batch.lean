import Stablecoin.Run.Simulation
import Stablecoin.Run.Summary

/-!
Batches: the same parameters run with consecutive seeds, and what the finished runs
say together. A run that fails is part of the answer and does not end the batch.
-/
namespace Stablecoin

/-- Parameters to be run with as many seeds. -/
structure Batch (α : Type) where
  parameters : Parameters α
  runs : Nat
  /-- Recorded collateral prices, which all runs replay. -/
  prices : Option (Array α)

/-- What became of one seed. The reason of a failure is of whatever type tells it. -/
structure SeedOutcome (α ε : Type) where
  seed : UInt64
  summary : Option (RunSummary α)
  error : Option ε

/-- What the finished runs of a batch say together. -/
structure BatchSummary (α : Type) where
  runs : Nat
  failed : Nat
  minStablePriceP5 : α
  minStablePriceMedian : α
  maxStablePriceP95 : α
  meanLiquidatedShare : α
  meanStableRedeemed : α
  /-- The share of the runs that were in recovery at some time. -/
  recoveryRunShare : α
deriving Repr

variable {α ε : Type} [Number α]

/-- The run that the parameters make, replaying prices where there are any. -/
def Simulation.prepare (parameters : Parameters α) (prices : Option (Array α)) :
    Except (RunError α) (Simulation α) := do
  let sim ← Simulation.new parameters
  match prices with
  | some prices => sim.withPrices prices
  | none => return sim

namespace Batch

/-- The seeds count up from that of the parameters, and wrap around. -/
def seeds (batch : Batch α) : List UInt64 :=
  (List.range batch.runs).map fun k => batch.parameters.seed + k.toUInt64

/-- The run of one seed. -/
def prepare (batch : Batch α) (seed : UInt64) : Except (RunError α) (Simulation α) :=
  Simulation.prepare { batch.parameters with seed } batch.prices

/-- Runs one seed: the rows of its table, if a run could be made at all, and what
    ended it. -/
def runSeed (batch : Batch α) (seed : UInt64) : Option (List (Row α)) × Option (RunError α) :=
  match batch.prepare seed with
  | .error error => (none, some error)
  | .ok sim =>
    let (rows, error, _) := sim.run
    (some rows, error)

/-- What became of a seed whose run left the rows and the error. A run that failed
    has no summary. -/
def outcome (seed : UInt64) (rows : Option (List (Row α))) (error : Option ε) : SeedOutcome α ε where
  seed := seed
  summary := if error.isSome then none else rows.bind RunSummary.ofRows?
  error := error

/-- Runs every seed, in the order of the seeds. -/
def outcomes (batch : Batch α) : List (SeedOutcome α (RunError α)) :=
  batch.seeds.map fun seed =>
    let (rows, error) := batch.runSeed seed
    outcome seed rows error

end Batch

namespace BatchSummary

/-- The numbers in ascending order. -/
def sorted (values : List α) : List α := values.mergeSort Number.totalLe

/-- The value at a share of the way through a sorted list, at the nearest place. -/
def percentile (values : List α) (share : α) : α :=
  let last := values.length - 1
  (values[min (Number.nearestNat ((last : α) * share)) last]?).getD 0

/-- Summarizes the outcomes of a batch. Without a finished run every statistic is zero. -/
def ofOutcomes (outcomes : List (SeedOutcome α ε)) : BatchSummary α :=
  let finished := outcomes.filterMap (·.summary)
  let count : α := (max finished.length 1 : Nat)
  let least := sorted (finished.map (·.minStablePrice))
  let greatest := sorted (finished.map (·.maxStablePrice))
  { runs := outcomes.length
    failed := outcomes.countP (·.error.isSome)
    minStablePriceP5 := percentile least 0.05
    minStablePriceMedian := percentile least 0.5
    maxStablePriceP95 := percentile greatest 0.95
    meanLiquidatedShare := Number.sum (finished.map (·.liquidatedShare)) / count
    meanStableRedeemed := Number.sum (finished.map (·.totalStableRedeemed)) / count
    recoveryRunShare := (finished.countP fun summary => decide (0 < summary.recoveryPeriods) : Nat) / count }

end BatchSummary
end Stablecoin
