import Stablecoin.Ledger.Redemption
import Stablecoin.Market.Openings

/-!
The sixth step of a period: the market for the stablecoin clears, and its price is
held near par. Above the ceiling new debt is issued, by an idle account or by the
whale; below the floor the whale redeems against the troves that are secured worst.
-/
namespace Stablecoin
open Number (tolerance)
variable {α : Type} [Number α]

/-- What became of the price of the stablecoin in a period. -/
structure PegOutcome (α : Type) where
  stablePrice : α
  liquidityDemand : α
  redeemed : α
  /-- The redemption fee at the price of the collateral. -/
  redemptionFee : α
  /-- The accounts whose troves were redeemed and closed. -/
  redeemedOut : List AccountId
  redemptionTally : Tally
  issuance : Issuance α

/-- The price at which the stablecoin outside the pool meets a demand of constant
    elasticity. -/
def clearingPrice (circulating demand elasticity : α) : α :=
  Number.pow (Number.max circulating tolerance / demand) (1 / elasticity)

/-- An idle account opens a trove that adds the shortfall to the supply, its fee and
    gas reserve included. Answers whether it was accepted. -/
def openArbitrageTrove (context : Context α) (market : Market α) (account : AccountId) (shortfall : α) :
    Bool × Market α × Issuance α :=
  let terms := context.parameters.terms
  let arbitrageCr := context.parameters.liquidity.arbitrageCr
  let rate := market.ledger.borrowingRate
  let gas := terms.gasCompensation
  let net := Number.max ((shortfall - gas) / (1 + rate)) terms.minNetDebt
  let collateral := arbitrageCr * (net * (1 + rate) + gas) / context.collateralPrice
  match market.ledger.openTrove account collateral net with
  | .error _ => (false, market, { (Issuance.none : Issuance α) with tally := ({} : Tally).reject })
  | .ok (change, left) =>
    let inattention := context.traits.drawInattention context.streams context.period account
    (true,
      { ledger := left, roster := market.roster.activate account arbitrageCr inattention context.period },
      { accounts := [account]
        collateralAdded := 0 + collateral
        stableIssued := 0 + net
        fee := 0 + change.fee
        tally := ({} : Tally).accept })

/-- With every account borrowing the whale draws the shortfall and posts collateral
    for it. Answers whether it was accepted. -/
def whaleDraw (context : Context α) (market : Market α) (shortfall : α) : Bool × Market α × Issuance α :=
  let draw := shortfall / (1 + market.ledger.borrowingRate)
  let collateral := context.parameters.liquidity.arbitrageCr * shortfall / context.collateralPrice
  match market.ledger.adjustTrove whale collateral draw with
  | .error _ => (false, market, { (Issuance.none : Issuance α) with tally := ({} : Tally).reject })
  | .ok (change, left) =>
    (true, { market with ledger := left },
      { accounts := []
        collateralAdded := 0 + collateral
        stableIssued := 0 + draw
        fee := 0 + change.fee
        tally := ({} : Tally).accept })

/-- Issues new debt while the price lies above the ceiling. -/
def defendCeiling (context : Context α) (market : Market α) (pool : α) (outcome : PegOutcome α) :
    Market α × PegOutcome α :=
  let liquidity := context.parameters.liquidity
  let demand := outcome.liquidityDemand
  let ceiling := liquidity.ceiling + market.ledger.borrowingRate
  if ceiling < outcome.stablePrice then
    let shortfall := pool + demand * Number.pow ceiling liquidity.elasticity - market.ledger.supply
    let (issued, market, issuance) :=
      match market.roster.idleBorrowers with
      | account :: _ => openArbitrageTrove context market account shortfall
      | [] => whaleDraw context market shortfall
    let stablePrice :=
      if issued then clearingPrice (market.ledger.supply - pool) demand liquidity.elasticity else outcome.stablePrice
    (market, { outcome with issuance, stablePrice })
  else (market, outcome)

/-- Redeems while the price lies below the floor. What is offered follows the supply
    that the step started with. -/
def defendFloor (context : Context α) (market : Market α) (pool startingSupply : α) (outcome : PegOutcome α) :
    Market α × PegOutcome α :=
  let elasticity := context.parameters.liquidity.elasticity
  let demand := outcome.liquidityDemand
  let floor := 1 - market.ledger.redemptionRate
  if outcome.stablePrice < floor then
    let targetSupply := pool + demand * Number.pow floor elasticity
    let amount := Number.min (startingSupply - targetSupply) (market.ledger.balance whale)
    if tolerance < amount then
      match market.ledger.redeem whale amount with
      | (.error _, left) =>
        ({ market with ledger := left }, { outcome with redemptionTally := outcome.redemptionTally.reject })
      | (.ok redemption, left) =>
        let roster := redemption.closed.foldl (fun roster account => roster.deactivate account context.period)
          market.roster
        ({ ledger := left, roster },
          { outcome with
            redeemed := redemption.redeemed
            redemptionFee := redemption.fee * context.collateralPrice
            redeemedOut := redemption.closed
            redemptionTally := outcome.redemptionTally.accept
            stablePrice := clearingPrice (left.supply - pool) demand elasticity })
    else (market, outcome)
  else (market, outcome)

/-- Clears the market of a period and defends both bounds of the price. -/
def stabilizePrice (context : Context α) (market : Market α) (previousDemand : α) : Market α × PegOutcome α :=
  let liquidity := context.parameters.liquidity
  let shock := normalShock liquidity.shockSd context.streams .liquidityShock context.period
  let demand := previousDemand * liquidity.drift * (1 + shock)
  let pool := market.ledger.totalDeposits
  let supply := market.ledger.supply
  let outcome : PegOutcome α :=
    { stablePrice := clearingPrice (supply - pool) demand liquidity.elasticity
      liquidityDemand := demand
      redeemed := 0
      redemptionFee := 0
      redeemedOut := []
      redemptionTally := {}
      issuance := Issuance.none }
  let (market, outcome) := defendCeiling context market pool outcome
  defendFloor context market pool supply outcome

end Stablecoin
