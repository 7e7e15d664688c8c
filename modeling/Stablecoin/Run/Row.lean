import Stablecoin.Decimal.Layout
import Stablecoin.Number

namespace Stablecoin

/-- The market at the end of a period. -/
structure Row (α : Type) where
  iteration : Nat
  collateralPrice : α
  stablePrice : α
  rewardPrice : α
  numTroves : Nat
  totalCollateral : α
  totalDebt : α
  tcr : α
  recoveryMode : Bool
  lastIcr : α
  poolStable : α
  poolCollateral : α
  totalCollateralAdded : α
  totalCollateralLiquidated : α
  totalStableRedeemed : α
deriving Repr

namespace Row

/-- The names of the columns in their order. -/
def columns : List String :=
  ["iteration", "collateral_price", "stable_price", "reward_price", "num_troves", "total_coll", "total_debt",
    "tcr", "recovery_mode", "last_icr", "sp_stable", "sp_collateral", "total_coll_added",
    "total_coll_liquidated", "total_stable_redeemed"]

/-- The fields in the order of the columns. -/
def fields (row : Row Float) : List String :=
  let text := Decimal.text
  [toString row.iteration, text row.collateralPrice, text row.stablePrice, text row.rewardPrice,
    toString row.numTroves, text row.totalCollateral, text row.totalDebt, text row.tcr,
    toString row.recoveryMode, text row.lastIcr, text row.poolStable, text row.poolCollateral,
    text row.totalCollateralAdded, text row.totalCollateralLiquidated, text row.totalStableRedeemed]

/-- One line of the table. -/
def line (fields : List String) : String := ",".intercalate fields ++ "\n"

/-- The table with its header. -/
def table (rows : List (Row Float)) : String :=
  line columns ++ String.join (rows.map fun row => line row.fields)

end Row
end Stablecoin
