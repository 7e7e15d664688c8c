import Stablecoin.Decimal.Layout
import Stablecoin.Run.Row

namespace Stablecoin

/-- The summary of a run. -/
structure RunSummary (α : Type) where
  periods : Nat
  meanStablePrice : α
  minStablePrice : α
  maxStablePrice : α
  finalStablePrice : α
  finalCollateralPrice : α
  finalRewardPrice : α
  maxTroves : Nat
  finalTroves : Nat
  minTcr : α
  /-- The number of periods that ended in recovery. -/
  recoveryPeriods : Nat
  totalCollateralAdded : α
  totalCollateralLiquidated : α
  totalStableRedeemed : α
deriving Repr

/-- How floats are written in the file of a summary: an exponent stands where the
    number lies below 1e-5 or from 1e16 on, and a number always has a point or an
    exponent. -/
def summaryNumbers : Decimal.Layout where
  positional := some (-5, 15)
  pointZero := true
  tie := .toEven
  nan := "null"
  infinity := "null"

namespace RunSummary
variable {α : Type} [Number α]

/-- The summary of a table with at least one row. -/
def ofRows? (rows : List (Row α)) : Option (RunSummary α) :=
  rows.getLast?.map fun last =>
    let prices := rows.map (·.stablePrice)
    { periods := rows.length
      meanStablePrice := Number.sum prices / (rows.length : α)
      minStablePrice := Number.least prices
      maxStablePrice := Number.greatest prices
      finalStablePrice := last.stablePrice
      finalCollateralPrice := last.collateralPrice
      finalRewardPrice := last.rewardPrice
      maxTroves := rows.foldl (fun most row => max most row.numTroves) 0
      finalTroves := last.numTroves
      minTcr := Number.least (rows.map (·.tcr))
      recoveryPeriods := rows.countP (·.recoveryMode)
      totalCollateralAdded := last.totalCollateralAdded
      totalCollateralLiquidated := last.totalCollateralLiquidated
      totalStableRedeemed := last.totalStableRedeemed }

/-- The share of all collateral ever added that was liquidated. -/
def liquidatedShare (summary : RunSummary α) : α :=
  if summary.totalCollateralAdded ≤ 0 then 0
  else summary.totalCollateralLiquidated / summary.totalCollateralAdded

/-- The names and texts of the fields in their order. A number that is not finite has
    no text of its own. -/
def fields (summary : RunSummary Float) : List (String × String) :=
  let text (x : Float) : String := if x.isFinite then summaryNumbers.render x else "null"
  [("periods", toString summary.periods),
    ("mean_stable_price", text summary.meanStablePrice),
    ("min_stable_price", text summary.minStablePrice),
    ("max_stable_price", text summary.maxStablePrice),
    ("final_stable_price", text summary.finalStablePrice),
    ("final_collateral_price", text summary.finalCollateralPrice),
    ("final_reward_price", text summary.finalRewardPrice),
    ("max_troves", toString summary.maxTroves),
    ("final_troves", toString summary.finalTroves),
    ("min_tcr", text summary.minTcr),
    ("recovery_periods", toString summary.recoveryPeriods),
    ("total_coll_added", text summary.totalCollateralAdded),
    ("total_coll_liquidated", text summary.totalCollateralLiquidated),
    ("total_stable_redeemed", text summary.totalStableRedeemed)]

/-- The file of the summary: one field a line, indented by two blanks, in an object. -/
def file (summary : RunSummary Float) : String :=
  let line (field : String × String) : String := "  \"" ++ field.1 ++ "\": " ++ field.2
  "\x7b\n" ++ ",\n".intercalate (summary.fields.map line) ++ "\n\x7d"

end RunSummary
end Stablecoin
