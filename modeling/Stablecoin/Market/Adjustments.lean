import Stablecoin.Market.Context

namespace Stablecoin
variable {α : Type} [Number α]

/-- An adjustment back to the target ratio. -/
inductive Rebalance (α : Type) where
  | addCollateral (amount : α)
  | repay (amount : α)
  | withdrawCollateral (amount : α)
  | draw (amount : α)

/-- The adjustment of a trove that brings its ratio to the target. The fee of a draw
    adds to the debt, so that much less is drawn. -/
def rebalance (trove : Trove α) (target price borrowingRate : α) (fell viaCollateral : Bool) : Rebalance α :=
  match fell, viaCollateral with
  | true, true => .addCollateral (trove.debt * target / price - trove.collateral)
  | true, false => .repay (trove.debt - trove.collateral * price / target)
  | false, true => .withdrawCollateral (trove.collateral - trove.debt * target / price)
  | false, false => .draw ((trove.collateral * price / target - trove.debt) / (1 + borrowingRate))

/-- Carries an adjustment out on the ledger. -/
def Rebalance.apply (ledger : Ledger α) (account : AccountId) (outcome : Issuance α) :
    Rebalance α → Ledger α × Issuance α
  | .addCollateral amount =>
    match ledger.adjustTrove account amount 0 with
    | .error _ => (ledger, { outcome with tally := outcome.tally.reject })
    | .ok (_, left) =>
      (left,
        { outcome with
          collateralAdded := outcome.collateralAdded + amount
          accounts := outcome.accounts ++ [account]
          tally := outcome.tally.accept })
  | .repay amount =>
    match ledger.topUp account amount with
    | .error _ => (ledger, { outcome with tally := outcome.tally.reject })
    | .ok funded =>
      match funded.adjustTrove account 0 (-amount) with
      | .error _ => (funded, { outcome with tally := outcome.tally.reject })
      | .ok (_, left) =>
        (left, { outcome with accounts := outcome.accounts ++ [account], tally := outcome.tally.accept })
  | .withdrawCollateral amount =>
    match ledger.adjustTrove account (-amount) 0 with
    | .error _ => (ledger, { outcome with tally := outcome.tally.reject })
    | .ok (_, left) =>
      (left, { outcome with accounts := outcome.accounts ++ [account], tally := outcome.tally.accept })
  | .draw amount =>
    match ledger.adjustTrove account 0 amount with
    | .error _ => (ledger, { outcome with tally := outcome.tally.reject })
    | .ok (change, left) =>
      (left,
        { outcome with
          stableIssued := outcome.stableIssued + amount
          fee := outcome.fee + change.fee
          accounts := outcome.accounts ++ [account]
          tally := outcome.tally.accept })

/-- One account looks at its trove and adjusts it if the ratio is off target. -/
def adjustTurn (context : Context α) (state : Market α × Issuance α) (account : AccountId) :
    Market α × Issuance α :=
  let (market, outcome) := state
  if market.isTriggered context account then
    match market.roster.get? account, market.ledger.troves.get? account with
    | some borrower, some trove =>
      let price := context.collateralPrice
      let fell := decide (borrower.deviation (trove.icr price).toNumber < 0)
      let viaCollateral := coinFlip context.streams context.period account
      let (ledger, outcome) :=
        (rebalance trove borrower.targetCr price market.ledger.borrowingRate fell viaCollateral).apply
          market.ledger account outcome
      ({ market with ledger }, outcome)
    | _, _ => state
  else state

/-- The adjustments of a period. -/
def adjust (context : Context α) (market : Market α) : Market α × Issuance α :=
  market.roster.activeBorrowers.foldl (adjustTurn context) (market, Issuance.none)

end Stablecoin
