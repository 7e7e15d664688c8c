import Stablecoin.Market.Context

namespace Stablecoin
open Stablecoin.Random
variable {α : Type} [Number α]

/-- What the closures of a period did. -/
structure ClosureOutcome where
  /-- How many troves were to be closed. -/
  target : Nat := 0
  closed : List AccountId := []
  tally : Tally := {}

/-- One account closes its trove, topped up for the repayment. The answer says whether
    to look for recovery before the next account. -/
def closeTurn (context : Context α) (account : AccountId) (market : Market α) (outcome : ClosureOutcome) :
    Bool × Market α × ClosureOutcome :=
  match market.ledger.troves.get? account with
  | none => (false, market, outcome)
  | some trove =>
    let repay := trove.debt - Number.min context.parameters.terms.gasCompensation trove.debt
    match market.ledger.topUp account repay with
    | .error _ => (false, market, { outcome with tally := outcome.tally.reject })
    | .ok funded =>
      match funded.closeTrove account with
      | .error _ => (true, { market with ledger := funded }, { outcome with tally := outcome.tally.reject })
      | .ok (_, left) =>
        (true, { ledger := left, roster := market.roster.deactivate account context.period },
          { outcome with closed := outcome.closed ++ [account], tally := outcome.tally.accept })

/-- The chosen accounts take their turns until the system is in recovery. -/
def closeTurns (context : Context α) :
    List AccountId → Market α × ClosureOutcome → Market α × ClosureOutcome
  | [], state => state
  | account :: rest, (market, outcome) =>
    let (looks, market, outcome) := closeTurn context account market outcome
    if looks ∧ market.ledger.InRecovery then (market, outcome) else closeTurns context rest (market, outcome)

/-- The closures of a period. -/
def close (context : Context α) (market : Market α) : Market α × ClosureOutcome :=
  if market.roster.active.isEmpty ∨ market.ledger.InRecovery then (market, {})
  else
    let candidates := market.roster.activeBorrowers.filter (market.isTriggered context)
    let target :=
      closeCount context.parameters.borrowing context.streams context.period context.stablePrice candidates.length
    closeTurns context (choose candidates target context.streams .closeSelection context.period)
      (market, { target })

end Stablecoin
