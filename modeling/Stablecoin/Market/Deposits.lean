import Stablecoin.Ledger.StabilityPool
import Stablecoin.Market.Context

namespace Stablecoin
open Stablecoin.Random
open Number (tolerance)
variable {α : Type} [Number α]

/-- What became of the stability pool in a period. -/
structure DepositOutcome (α : Type) where
  previous : α
  target : α
  deposited : α
  withdrawn : α
  collateralClaimed : α
  rewardClaimed : α
  tally : Tally

/-- A depositor collects what it is owed. -/
def claimTurn (state : Ledger α × DepositOutcome α) (account : AccountId) : Ledger α × DepositOutcome α :=
  let (ledger, outcome) := state
  match ledger.claim account with
  | .error _ => (ledger, { outcome with tally := outcome.tally.reject })
  | .ok (gains, left) =>
    (left,
      { outcome with
        collateralClaimed := outcome.collateralClaimed + gains.collateral
        rewardClaimed := outcome.rewardClaimed + gains.reward
        tally := outcome.tally.accept })

/-- A holder deposits what the pool still needs, or all that it has. -/
def provideTurn (state : Ledger α × DepositOutcome α × α) (account : AccountId) :
    Ledger α × DepositOutcome α × α :=
  let (ledger, outcome, need) := state
  if need ≤ tolerance then state
  else
    let amount := Number.min need (ledger.balance account)
    if amount ≤ tolerance then state
    else
      match ledger.provide account amount with
      | .error _ => (ledger, { outcome with tally := outcome.tally.reject }, need)
      | .ok left =>
        (left, { outcome with deposited := outcome.deposited + amount, tally := outcome.tally.accept },
          need - amount)

/-- A depositor withdraws its share of what the pool has too much. -/
def withdrawTurn (surplus current : α) (state : Ledger α × DepositOutcome α) (account : AccountId) :
    Ledger α × DepositOutcome α :=
  let (ledger, outcome) := state
  let amount := surplus * (ledger.deposit account / current)
  if amount ≤ tolerance then state
  else
    match ledger.withdraw account amount with
    | .error _ => (ledger, { outcome with tally := outcome.tally.reject })
    | .ok (withdrawn, left) =>
      (left, { outcome with withdrawn := outcome.withdrawn + withdrawn, tally := outcome.tally.accept })

/-- The size that the pool is drawn to. An empty pool with an attractive return starts
    from the minimum debt of a trove. -/
def poolTarget (context : Context α) (current poolReturn : α) : α :=
  let stability := context.parameters.stability
  let shock := normalShock stability.shockSd context.streams .stabilityShock context.period
  let base :=
    if current ≤ tolerance ∧ context.naturalRate < poolReturn then context.parameters.terms.minNetDebt else current
  Number.max (base * (1 + shock) * (1 + stability.sensitivity * (poolReturn - context.naturalRate))) 0

/-- The claims, deposits and withdrawals of a period. Active borrowers who hold
    stablecoin deposit in random order, and the whale comes last. -/
def updateDeposits (context : Context α) (market : Market α) (poolReturn : α) : Ledger α × DepositOutcome α :=
  let (ledger, outcome) :=
    market.ledger.depositors.foldl claimTurn (market.ledger, ⟨0, 0, 0, 0, 0, 0, {}⟩)
  let current := ledger.totalDeposits
  let target := poolTarget context current poolReturn
  let outcome := { outcome with previous := current, target }
  if current + tolerance < target then
    let holders := market.roster.activeBorrowers.filter fun account => decide (tolerance < ledger.balance account)
    let order := choose holders holders.length context.streams .stabilityDepositor context.period
    let (ledger, outcome, _) := (order ++ [whale]).foldl provideTurn (ledger, outcome, target - current)
    (ledger, outcome)
  else if target + tolerance < current then
    ledger.depositors.foldl (withdrawTurn (current - target) current) (ledger, outcome)
  else (ledger, outcome)

end Stablecoin
