import Stablecoin.Ledger.Liquidation
import Stablecoin.Ledger.StabilityPool
import Stablecoin.Market.Context
import Stablecoin.Market.State

namespace Stablecoin
variable {α : Type} [Number α]

/-- What the liquidations of a period did. -/
structure LiquidationOutcome (α : Type) where
  /-- The accounts in the order of their liquidation. -/
  liquidated : List AccountId
  collateralLiquidated : α
  debtOffset : α
  liquidationGain : α
  airdropGain : α
  /-- The yearly return of the stability pool. -/
  stabilityReturn : α
  tally : Tally

/-- The yearly return of depositors, from the gains of the trailing window. -/
def stabilityReturn (parameters : Parameters α) (state : MarketState α) (period : Nat) (poolTotal stablePrice : α) :
    α :=
  let initial := parameters.stability.initialReturn
  if period ≤ 1 then initial
  else if poolTotal ≤ Number.tolerance ∨ stablePrice ≤ 0 then 2.0 * initial
  else
    let window := min period parameters.stability.returnWindow
    let gains := state.trailingGains period window
    parameters.periodsPerYear / (window : α) * gains / (stablePrice * poolTotal)

/-- Books one liquidated trove. -/
def bookLiquidation (context : Context α) (state : Market α × LiquidationOutcome α) (liquidation : Liquidation α) :
    Market α × LiquidationOutcome α :=
  let (market, outcome) := state
  ({ market with roster := market.roster.deactivate liquidation.account context.period },
    { outcome with
      collateralLiquidated := outcome.collateralLiquidated + liquidation.collateralToPool
      debtOffset := outcome.debtOffset + liquidation.debtOffset
      liquidated := outcome.liquidated ++ [liquidation.account] })

/-- Liquidates batch after batch while troves wait for it. Every accepted batch takes
    at least one trove, so their number bounds the batches. -/
def liquidateBatches (context : Context α) :
    Nat → Market α × LiquidationOutcome α → Market α × LiquidationOutcome α
  | 0, state => state
  | batches + 1, (market, outcome) =>
    if ¬ market.ledger.HasPendingLiquidations then (market, outcome)
    else
      match market.ledger.liquidateTroves whale context.parameters.terms.maxLiquidationsPerCall with
      | .error _ => (market, { outcome with tally := outcome.tally.reject })
      | .ok (liquidations, left) =>
        liquidateBatches context batches
          (liquidations.foldl (bookLiquidation context)
            ({ market with ledger := left }, { outcome with tally := outcome.tally.accept }))

/-- The liquidations of a period. -/
def liquidate (context : Context α) (market : Market α) (state : MarketState α) :
    Market α × LiquidationOutcome α :=
  let none : LiquidationOutcome α := ⟨[], 0, 0, 0, 0, 0, {}⟩
  let (market, outcome) :=
    if market.roster.active.isEmpty then (market, none)
    else liquidateBatches context market.ledger.troves.size (market, none)
  let airdrop := context.parameters.stability.airdropQuantity
  let (issued, ledger) := market.ledger.issueRewards airdrop
  ({ market with ledger },
    { outcome with
      liquidationGain :=
        outcome.collateralLiquidated * context.collateralPrice - outcome.debtOffset * context.stablePrice
      airdropGain := if 0 < issued then context.rewardPrice * airdrop else 0
      stabilityReturn :=
        stabilityReturn context.parameters state context.period ledger.totalDeposits context.stablePrice })

end Stablecoin
