import Stablecoin.Market.Context

namespace Stablecoin
open Stablecoin.Random
variable {α : Type} [Number α]

/-- One account draws traits and opens a trove at its target ratio. Collateral too
    small for the minimum debt is raised to what that debt needs. -/
def openTurn (context : Context α) (state : Market α × Issuance α) (account : AccountId) :
    Market α × Issuance α :=
  let (market, outcome) := state
  let price := context.collateralPrice
  let minimum := context.parameters.terms.minNetDebt
  let traits := context.traits.draw context.streams context.period account
  let affordable := traits.collateral * price / traits.targetCr
  let (collateral, netDebt) :=
    if affordable < minimum then (minimum * traits.targetCr / price, minimum) else (traits.collateral, affordable)
  match market.ledger.openTrove account collateral netDebt with
  | .error _ => (market, { outcome with tally := outcome.tally.reject })
  | .ok (change, left) =>
    ({ ledger := left
       roster := market.roster.activate account traits.targetCr traits.inattention context.period },
      { accounts := outcome.accounts ++ [account]
        collateralAdded := outcome.collateralAdded + collateral
        stableIssued := outcome.stableIssued + netDebt
        fee := outcome.fee + change.fee
        tally := outcome.tally.accept })

/-- The idle accounts that may open a trove. -/
def Roster.idleBorrowers (roster : Roster α) : List AccountId := roster.idleAccounts.filter (· != whale)

/-- The openings of a period. -/
def openTroves (context : Context α) (market : Market α) : Market α × Issuance α :=
  let idle := market.roster.idleBorrowers
  let count :=
    openCount context.parameters.borrowing context.streams context.period context.stablePrice
      market.ledger.borrowingRate idle.length
  (choose idle count context.streams .openSelection context.period).foldl (openTurn context) (market, Issuance.none)

end Stablecoin
