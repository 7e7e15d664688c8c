import Stablecoin.Decimal.Fixed
import Stablecoin.Run.Batch

namespace Stablecoin
open Decimal (fixed)

/-- The lines about the summary of a run. -/
def RunSummary.lines (summary : RunSummary Float) (seed : UInt64) : List String :=
  ["",
    "=== Run Summary (seed " ++ toString seed.toNat ++ ") ===",
    "Periods:                " ++ toString summary.periods,
    "Stablecoin price:       mean " ++ fixed 4 summary.meanStablePrice ++ "  min " ++ fixed 4 summary.minStablePrice ++
      "  max " ++ fixed 4 summary.maxStablePrice ++ "  final " ++ fixed 4 summary.finalStablePrice,
    "Troves:                 max " ++ toString summary.maxTroves ++ "  final " ++ toString summary.finalTroves,
    "Min TCR:                " ++ fixed 4 summary.minTcr,
    "Recovery-mode periods:  " ++ toString summary.recoveryPeriods,
    "Collateral liquidated:  " ++ fixed 2 summary.totalCollateralLiquidated ++ " of " ++
      fixed 2 summary.totalCollateralAdded ++ " added",
    "Stablecoin redeemed:    " ++ fixed 2 summary.totalStableRedeemed]

/-- The line about a seed of a batch, the seed in six columns. -/
def SeedOutcome.line (outcome : SeedOutcome Float String) : String :=
  let seed := toString outcome.seed.toNat
  let start := "seed " ++ "".pushn ' ' (6 - seed.length) ++ seed ++ "  "
  match outcome.summary, outcome.error with
  | _, some error => start ++ "FAILED  " ++ error
  | some summary, none =>
    start ++ "min " ++ fixed 4 summary.minStablePrice ++ "  max " ++ fixed 4 summary.maxStablePrice ++
      "  liquidated " ++ fixed 2 (summary.liquidatedShare * 100.0) ++ "%  redeemed " ++
      fixed 2 summary.totalStableRedeemed
  | none, none => start ++ "no periods"

/-- The lines about a batch. -/
def BatchSummary.lines (summary : BatchSummary Float) : List String :=
  ["",
    "=== Batch Summary (" ++ toString summary.runs ++ " runs, " ++ toString summary.failed ++ " failed) ===",
    "Min stablecoin price:   p5 " ++ fixed 4 summary.minStablePriceP5 ++ "  median " ++
      fixed 4 summary.minStablePriceMedian,
    "Max stablecoin price:   p95 " ++ fixed 4 summary.maxStablePriceP95,
    "Liquidated share:       " ++ fixed 2 (summary.meanLiquidatedShare * 100.0) ++ "%",
    "Recovery-mode runs:     " ++ fixed 1 (summary.recoveryRunShare * 100.0) ++ "%"]

end Stablecoin
